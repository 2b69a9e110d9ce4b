import LocalServer.Notice

/-!
# Findings

Looking something up changes nothing, but it may fail, and there may be
something to tell on the way. A **finding** is what came out of a lookup
together with the notices of the way, in order. Notices of a lookup that
fails are told all the same.
-/

namespace LocalServer

variable {τ : Type} {α β : Type}

/-- **A finding**: the notices on the way, and what came out. -/
structure Finding (τ : Type) (α : Type) where
  /-- The notices on the way, in order. -/
  notices : List (Notice τ)
  /-- What came out. -/
  outcome : Except (Fault τ) α

namespace Finding

/-- One lookup after the other; the second is left out if the first
fails. -/
def andThen (x : Finding τ α) (f : α → Finding τ β) : Finding τ β :=
  match x.outcome with
  | .ok a => ⟨x.notices ++ (f a).notices, (f a).outcome⟩
  | .error e => ⟨x.notices, .error e⟩

instance : Monad (Finding τ) where
  pure a := ⟨[], .ok a⟩
  bind := andThen

@[simp] theorem notices_pure (a : α) : (pure a : Finding τ α).notices = [] := rfl

@[simp] theorem outcome_pure (a : α) : (pure a : Finding τ α).outcome = .ok a := rfl

/-- A lookup that succeeds hands on its result, and its notices come
first. -/
theorem bind_of_ok {x : Finding τ α} {a : α} (h : x.outcome = .ok a) (f : α → Finding τ β) :
    x >>= f = ⟨x.notices ++ (f a).notices, (f a).outcome⟩ := by
  simp only [bind, andThen, h]

/-- A lookup that fails ends the search. -/
theorem bind_of_error {x : Finding τ α} {e : Fault τ} (h : x.outcome = .error e)
    (f : α → Finding τ β) : x >>= f = ⟨x.notices, .error e⟩ := by
  simp only [bind, andThen, h]

instance : LawfulMonad (Finding τ) :=
  LawfulMonad.mk' _
    (fun x => by
      obtain ⟨ns, r⟩ := x
      cases r <;> simp [Functor.map, andThen])
    (fun a f => by simp [bind, andThen, pure])
    (fun x f g => by
      obtain ⟨ns, r⟩ := x
      cases r with
      | error e => rfl
      | ok a =>
        simp only [bind, andThen]
        cases (f a).outcome <;> simp)

/-- A change of the result changes nothing else, and a failure stays the same. -/
theorem outcome_map (f : α → β) (x : Finding τ α) : (f <$> x).outcome = x.outcome.map f := by
  rw [← bind_pure_comp]
  cases h : x.outcome with
  | ok a =>
    rw [bind_of_ok h]
    rfl
  | error e =>
    rw [bind_of_error h]
    rfl

/-- Something to tell. -/
def tell (n : Notice τ) : Finding τ Unit :=
  ⟨[n], .ok ()⟩

@[simp] theorem notices_tell (n : Notice τ) : (tell n).notices = [n] := rfl

@[simp] theorem outcome_tell (n : Notice τ) : (tell n).outcome = .ok () := rfl

/-- A lookup that has nothing to tell. -/
def ofExcept (r : Except (Fault τ) α) : Finding τ α :=
  ⟨[], r⟩

/-- A lookup that fails. -/
def fail (e : Fault τ) : Finding τ α :=
  ⟨[], .error e⟩

end Finding

end LocalServer
