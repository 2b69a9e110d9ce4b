/-!
# Cutting text at a character

Addresses are read by cutting a text at the first or at the last
occurrence of a separator. The pieces never hold the separator they were
cut at, and putting the separator back gives the text again
(`append_cutAt`, `beforeLast_append_afterLast`).
-/

namespace LocalServer.Text

variable {c : Char}

/-- **The two sides of the first `c`**: what stands before it and what
stands after it. Without a `c` all of the text is before. -/
def cutAt (c : Char) (cs : List Char) : List Char × List Char :=
  (cs.takeWhile (· != c), (cs.dropWhile (· != c)).tail)

@[simp] theorem cutAt_nil (c : Char) : cutAt c [] = ([], []) := rfl

/-- Cutting right before the separator. -/
@[simp] theorem cutAt_cons_self (c : Char) (cs : List Char) : cutAt c (c :: cs) = ([], cs) := by
  simp [cutAt]

/-- Another character goes to the left side. -/
theorem cutAt_cons_of_ne {d : Char} (h : d ≠ c) (cs : List Char) :
    cutAt c (d :: cs) = (d :: (cutAt c cs).1, (cutAt c cs).2) := by
  simp [cutAt, h]

/-- **Nothing is lost** by a cut at a character that occurs. -/
theorem append_cutAt {cs : List Char} (h : c ∈ cs) :
    (cutAt c cs).1 ++ c :: (cutAt c cs).2 = cs := by
  induction cs with
  | nil => simp at h
  | cons d cs ih =>
    by_cases hd : d = c
    · subst hd; simp
    · have hc : c ∈ cs := by simpa [Ne.symm hd] using h
      rw [cutAt_cons_of_ne hd]
      simpa using ih hc

/-- Without the separator all of the text is on the left side. -/
theorem cutAt_of_notMem {cs : List Char} (h : c ∉ cs) : cutAt c cs = (cs, []) := by
  induction cs with
  | nil => rfl
  | cons d cs ih =>
    have hd : d ≠ c := fun e => h (by simp [e])
    rw [cutAt_cons_of_ne hd, ih (fun m => h (by simp [m]))]

/-- The left side does not hold the separator. -/
theorem notMem_cutAt_fst (c : Char) (cs : List Char) : c ∉ (cutAt c cs).1 := by
  induction cs with
  | nil => simp
  | cons d cs ih =>
    by_cases hd : d = c
    · subst hd; simp
    · rw [cutAt_cons_of_ne hd]; simpa [Ne.symm hd] using ih

/-- The cut is at the separator that follows a text without one. -/
theorem cutAt_append_cons {front : List Char} (h : c ∉ front) (back : List Char) :
    cutAt c (front ++ c :: back) = (front, back) := by
  induction front with
  | nil => exact cutAt_cons_self c back
  | cons d front ih =>
    simp only [List.mem_cons, not_or] at h
    rw [List.cons_append, cutAt_cons_of_ne (Ne.symm h.1), ih h.2]

/-- What stands after the last `c`; all of the text if there is none. -/
def afterLast (c : Char) (cs : List Char) : List Char :=
  (cs.reverse.takeWhile (· != c)).reverse

/-- What stands before the last `c`; nothing if there is none. -/
def beforeLast (c : Char) (cs : List Char) : List Char :=
  (cs.reverse.dropWhile (· != c)).tail.reverse

/-- The last `c` separates what stands before it from what stands after. -/
theorem beforeLast_append_afterLast {cs : List Char} (h : c ∈ cs) :
    beforeLast c cs ++ c :: afterLast c cs = cs := by
  have h' := append_cutAt (show c ∈ cs.reverse by simpa using h)
  have := congrArg List.reverse h'
  simpa [cutAt, beforeLast, afterLast] using this

/-- What stands after the last `c` does not hold one. -/
theorem notMem_afterLast (c : Char) (cs : List Char) : c ∉ afterLast c cs := by
  simpa [afterLast, cutAt] using notMem_cutAt_fst c cs.reverse

/-- Without a `c` all of the text stands after the last one. -/
theorem afterLast_of_notMem {cs : List Char} (h : c ∉ cs) : afterLast c cs = cs := by
  have h' := congrArg Prod.fst (cutAt_of_notMem (show c ∉ cs.reverse by simpa using h))
  have := congrArg List.reverse h'
  simpa [cutAt, afterLast] using this

/-- A separator hides what stands before it. -/
theorem afterLast_append_cons_self (front back : List Char) :
    afterLast c (front ++ c :: back) = afterLast c back := by
  have h : ∀ cs : List Char, (cs ++ c :: front.reverse).takeWhile (· != c)
      = cs.takeWhile (· != c) := by
    intro cs
    induction cs with
    | nil => simp
    | cons d cs ih => rw [List.cons_append, List.takeWhile_cons, List.takeWhile_cons, ih]
  simp [afterLast, h]

/-- The last separator is the one that a text without one follows. -/
theorem afterLast_append_cons {back : List Char} (h : c ∉ back) (front : List Char) :
    afterLast c (front ++ c :: back) = back := by
  rw [afterLast_append_cons_self, afterLast_of_notMem h]

/-- What stands after the last `c` is part of the text. -/
theorem mem_of_mem_afterLast {d : Char} {cs : List Char} (h : d ∈ afterLast c cs) : d ∈ cs := by
  have hsub := (List.takeWhile_sublist (· != c) (l := cs.reverse)).reverse
  rw [List.reverse_reverse] at hsub
  exact hsub.subset h

/-- Before it stands what stands before that separator. -/
theorem beforeLast_append_cons {back : List Char} (h : c ∉ back) (front : List Char) :
    beforeLast c (front ++ c :: back) = front := by
  have := congrArg Prod.snd
    (cutAt_append_cons (show c ∉ back.reverse by simpa using h) front.reverse)
  simpa [cutAt, beforeLast] using congrArg List.reverse this

/-- **A run of characters of a class** goes on until one outside of it
stands. -/
theorem takeWhile_run {p : Char → Bool} {run rest : List Char} (inside : ∀ d ∈ run, p d = true)
    (outside : ∀ d ∈ rest.head?, p d = false) : (run ++ rest).takeWhile p = run := by
  rw [List.takeWhile_append_of_pos inside]
  cases rest with
  | nil => simp
  | cons d rest => simp [outside d rfl]

/-- What is left behind a run. -/
theorem dropWhile_run {p : Char → Bool} {run rest : List Char} (inside : ∀ d ∈ run, p d = true)
    (outside : ∀ d ∈ rest.head?, p d = false) : (run ++ rest).dropWhile p = rest := by
  rw [List.dropWhile_append_of_pos inside]
  cases rest with
  | nil => rfl
  | cons d rest => simp [outside d rfl]

/-- **The pieces between the separators.** There is one more piece than
there are separators, so a text without one is a single piece. -/
def pieces (c : Char) : List Char → List (List Char)
  | [] => [[]]
  | d :: cs =>
    if d = c then [] :: pieces c cs
    else match pieces c cs with
      | [] => [[d]]
      | p :: ps => (d :: p) :: ps

@[simp] theorem pieces_nil (c : Char) : pieces c [] = [[]] := rfl

@[simp] theorem pieces_cons_self (c : Char) (cs : List Char) :
    pieces c (c :: cs) = [] :: pieces c cs := by
  simp [pieces]

/-- There is always at least one piece. -/
theorem pieces_ne_nil (c : Char) (cs : List Char) : pieces c cs ≠ [] := by
  cases cs with
  | nil => simp
  | cons d cs =>
    by_cases hd : d = c
    · simp [pieces, hd]
    · simp only [pieces, hd, if_false]
      split <;> simp

/-- Without the separator all of the text is one piece. -/
theorem pieces_of_notMem {cs : List Char} (h : c ∉ cs) : pieces c cs = [cs] := by
  induction cs with
  | nil => rfl
  | cons d cs ih =>
    simp only [List.mem_cons, not_or] at h
    simp only [pieces, if_neg (Ne.symm h.1), ih h.2]

/-- No piece holds the separator. -/
theorem notMem_of_mem_pieces {p cs : List Char} (h : p ∈ pieces c cs) : c ∉ p := by
  induction cs generalizing p with
  | nil => simp_all
  | cons d cs ih =>
    by_cases hd : d = c
    · subst hd
      rw [pieces_cons_self, List.mem_cons] at h
      rcases h with rfl | h
      · simp
      · exact ih h
    · simp only [pieces, if_neg hd] at h
      split at h
      · simp_all [Ne.symm hd]
      · next q qs hq =>
        rw [hq] at ih
        rcases List.mem_cons.mp h with rfl | h
        · simpa [Ne.symm hd] using ih List.mem_cons_self
        · exact ih (List.mem_cons_of_mem _ h)

end LocalServer.Text
