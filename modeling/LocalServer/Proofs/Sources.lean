import LocalServer.Address

/-!
# Which source names the base address

A source is asked in two ways, by its notices and by what it comes to. What it
comes to is plain: the base address that its text names, if it names one. So
the base address is that of the first text of the user that names one
(`Address.text?`), and the settings of the server count only if none does.
-/

namespace LocalServer

variable {τ : Type}

/-- A text names a base address if and only if it could be used as one. -/
theorem BaseUrl.isSome_ofUrl? (text : String) : (ofUrl? text).isSome = isUsable text :=
  Option.isSome_map

namespace Address

variable {commandLine : Option String} {env : Environment} {platform : Platform}
  {files : FileTree} {raw value : String}

/-- **The text that names the base address**: that of the command line, if it
names one, or else that of the variable. -/
def text? (commandLine : Option String) (env : Environment) : Option String :=
  (commandLine.filter BaseUrl.isUsable).or ((env.get? baseUrlVariable).filter BaseUrl.isUsable)

/-- The empty text names no address. -/
theorem ofUrl?_empty : BaseUrl.ofUrl? "" = none := by decide +kernel

/-- **What a source comes to.** -/
theorem outcome_fromSource (source : AddressSource) (text : Option String) :
    (fromSource source text : Finding τ _).outcome = .ok (text.bind BaseUrl.ofUrl?) := by
  unfold fromSource
  split
  · rfl
  · rw [Option.bind_some, ofUrl?_empty]
    rfl
  · next text _ =>
    rw [Option.bind_some]
    cases BaseUrl.ofUrl? text <;> rfl

/-- A source whose text cannot be used comes to nothing, and one whose text can
comes to what the text names. -/
theorem bind_filter_isUsable (text : Option String) :
    (text.filter BaseUrl.isUsable).bind BaseUrl.ofUrl? = text.bind BaseUrl.ofUrl? := by
  cases text with
  | none => rfl
  | some text =>
    rw [Option.filter_some, ← BaseUrl.isSome_ofUrl?]
    cases h : BaseUrl.ofUrl? text with
    | none => simp [h]
    | some value => simp

/-- **What the choice comes to** if a text of the user names an address. -/
theorem outcome_choose_of_text? (htext : text? commandLine env = some raw)
    (h : BaseUrl.ofUrl? raw = some value) :
    (choose commandLine env platform files : Finding τ _).outcome = .ok value := by
  unfold choose
  rw [Finding.bind_of_ok (outcome_fromSource _ _), ← bind_filter_isUsable]
  unfold text? at htext
  cases hc : commandLine.filter BaseUrl.isUsable with
  | some text =>
    rw [hc, Option.some_or] at htext
    cases htext
    rw [Option.bind_some, h]
    rfl
  | none =>
    rw [hc, Option.none_or] at htext
    rw [Option.bind_none]
    dsimp only
    rw [Finding.bind_of_ok (outcome_fromSource _ _), ← bind_filter_isUsable, htext,
      Option.bind_some, h]
    rfl

/-- **What the choice comes to** if no text of the user names an address. -/
theorem outcome_choose_of_none (htext : text? commandLine env = none) :
    (choose commandLine env platform files : Finding τ _).outcome
      = (fromSettings env platform files).outcome := by
  obtain ⟨hc, hv⟩ := Option.or_eq_none_iff.mp htext
  unfold choose
  rw [Finding.bind_of_ok (outcome_fromSource _ _), ← bind_filter_isUsable, hc, Option.bind_none]
  dsimp only
  rw [Finding.bind_of_ok (outcome_fromSource _ _), ← bind_filter_isUsable, hv, Option.bind_none]

end Address

end LocalServer
