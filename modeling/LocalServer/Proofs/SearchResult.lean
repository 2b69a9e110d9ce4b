import LocalServer.Proofs.Search
import Mathlib.Data.List.Find

/-!
# What the search comes to

The search for the runtime goes through the roots one by one and remembers what was
missing on its way. What it comes to can be said of the whole list at once. The
search ends at the first root that is not passed over, and if all of them are then
the first of them without an interpreter is to blame, wherever it stands; only if
there is none does a missing server count, and that of the first root
(`Discovery.find_first_or_blame`).

What is remembered is the invariant that carries this: the first interpreter and the
first server that were missing under the roots so far (`Discovery.Missing.under`).
-/

namespace LocalServer.Discovery

open FileTree

variable {τ : Type} {platform : Platform} {files : FileTree} {root : Path} {rs : List Path}

instance : DecidablePred (Holds platform files) := fun root =>
  inferInstanceAs (Decidable (files.exists? (interpreter root platform) = some true ∧
    files.exists? (payload root) = some true))

instance : DecidablePred (Lacks platform files) := fun root =>
  inferInstanceAs (Decidable (files.exists? (interpreter root platform) = some false ∨
    files.exists? (interpreter root platform) = some true ∧
      files.exists? (payload root) = some false))

/-- **A root lacks its interpreter**: it was looked for in vain. -/
def LacksInterpreter (platform : Platform) (files : FileTree) (root : Path) : Prop :=
  files.exists? (interpreter root platform) = some false

instance : DecidablePred (LacksInterpreter platform files) := fun root =>
  inferInstanceAs (Decidable (files.exists? (interpreter root platform) = some false))

/-- **What is missing** when roots that lack an installation were passed over, and
something was missing before: the first interpreter, and the server of the first root
that has an interpreter. -/
def Missing.under (missing : Missing) (platform : Platform) (files : FileTree)
    (rs : List Path) : Missing where
  interpreter := missing.interpreter.or
    ((rs.find? (LacksInterpreter platform files ·)).map (Discovery.interpreter · platform))
  payload := missing.payload.or
    ((rs.find? (¬ LacksInterpreter platform files ·)).map Discovery.payload)

/-- **A root that lacks an installation is passed over**, and it is remembered what was
missing there: its interpreter if that was missing, and else its server. -/
theorem exists_missing_of_lacks (h : Lacks platform files root) (missing : Missing)
    (rest : List Path) : ∃ missing' : Missing,
      (search platform files missing (root :: rest) : Finding τ _).outcome
        = (search platform files missing' rest).outcome ∧
      missing.under platform files (root :: rest) = missing'.under platform files rest := by
  rw [outcome_search_cons]
  rcases h with hinterpreter | ⟨hinterpreter, hpayload⟩
  · have hlacks : LacksInterpreter platform files root := hinterpreter
    rw [hinterpreter]
    exact ⟨_, rfl, by simp [Missing.under, hlacks]⟩
  · have hhas : ¬ LacksInterpreter platform files root := by
      rw [LacksInterpreter, hinterpreter]
      rintro ⟨⟩
    rw [hinterpreter, hpayload]
    exact ⟨_, rfl, by simp [Missing.under, hhas]⟩

/-- **The search ends** at a root that does not lack an installation: it holds one, or
it cannot be looked up. -/
theorem outcome_search_of_not_lacks (h : ¬ Lacks platform files root) (missing : Missing)
    (rest : List Path) : (search platform files missing (root :: rest) : Finding τ _).outcome =
      if Holds platform files root then .ok (installation root platform)
      else .error .nameTooLong := by
  rw [outcome_search_cons]
  by_cases hholds : Holds platform files root
  · rw [if_pos hholds, hholds.1, hholds.2]
  · -- one of the two files cannot be looked up
    rw [if_neg hholds]
    cases hinterpreter : files.exists? (interpreter root platform) with
    | none => rfl
    | some there =>
      cases there with
      | false => exact absurd (Or.inl hinterpreter) h
      | true =>
        cases hpayload : files.exists? (payload root) with
        | none => rfl
        | some there =>
          cases there with
          | false => exact absurd (Or.inr ⟨hinterpreter, hpayload⟩) h
          | true => exact absurd ⟨hinterpreter, hpayload⟩ hholds

/-- **What the search comes to**, under any roots and whatever was missing before. The
first root that does not lack an installation is the last one that is looked at. -/
theorem outcome_search (missing : Missing) (rs : List Path) :
    (search platform files missing rs : Finding τ _).outcome =
      match rs.find? (¬ Lacks platform files ·) with
      | some root =>
        if Holds platform files root then .ok (installation root platform)
        else .error .nameTooLong
      | none => .error (.launch (missing.under platform files rs).error) := by
  induction rs generalizing missing with
  | nil => simp [search, Finding.fail, Missing.under]
  | cons root rest ih =>
    by_cases hlacks : Lacks platform files root
    · obtain ⟨missing', hsearch, hunder⟩ := exists_missing_of_lacks hlacks missing rest
      rw [hsearch, ih, hunder, List.find?_cons_of_neg (by simpa using hlacks)]
    · rw [List.find?_cons_of_pos (by simpa using hlacks)]
      exact outcome_search_of_not_lacks hlacks missing rest

/-! ## Where every root can be looked at -/

/-- **A root can be looked at**: of its two files it can be said whether they are
there. -/
structure CanBeLookedAt (platform : Platform) (files : FileTree) (root : Path) : Prop where
  interpreter : files.exists? (Discovery.interpreter root platform) ≠ none
  payload : files.exists? (Discovery.payload root) ≠ none

/-- A root that can be looked at holds an installation or lacks one. -/
theorem CanBeLookedAt.not_lacks_iff (h : CanBeLookedAt platform files root) :
    ¬ Lacks platform files root ↔ Holds platform files root := by
  obtain ⟨there, hinterpreter⟩ := Option.ne_none_iff_exists'.mp h.interpreter
  obtain ⟨there', hpayload⟩ := Option.ne_none_iff_exists'.mp h.payload
  cases there <;> cases there' <;> simp [Holds, Lacks, hinterpreter, hpayload]

/-- **What is to blame** when roots were passed over: the first interpreter that is
missing, or else the server of the first root. -/
theorem error_under (rs : List Path) :
    (Missing.under ⟨none, none⟩ platform files rs).error =
      match rs.find? (LacksInterpreter platform files ·), rs.head? with
      | some root, _ => (.absent (interpreter root platform).toText : LaunchError τ)
      | none, some root => .absent (payload root).toText
      | none, none => .nothingToSearch := by
  cases hlacks : rs.find? (LacksInterpreter platform files ·) with
  | some root =>
    rw [Missing.under, hlacks]
    rfl
  | none =>
    cases rs with
    | nil => rfl
    | cons root rest =>
      have hhas : ¬ LacksInterpreter platform files root := by
        simpa using List.find?_eq_none.mp hlacks root List.mem_cons_self
      simp [Missing.under, Missing.error, hlacks, hhas]

/-- **The first root with both files, or the file to blame.** Where every root can be
looked at, the search finds the installation under the first root that holds its
interpreter and its server. If no root holds both, it reports the interpreter of the
first root that lacks it, wherever that stands in the list, and if none lacks it, the
server of the first root. It has nothing to search exactly if the list is empty. -/
theorem find_first_or_blame (h : ∀ root ∈ rs, CanBeLookedAt platform files root) :
    (find rs platform files : Finding τ Installation).outcome =
      (match rs.find? (Holds platform files ·) with
      | some root => .ok ⟨root, interpreter root platform, payload root⟩
      | none =>
        match rs.find? (LacksInterpreter platform files ·), rs.head? with
        | some root, _ => .error (.launch (.absent (interpreter root platform).toText))
        | none, some root => .error (.launch (.absent (payload root).toText))
        | none, none => .error (.launch .nothingToSearch)) ∧
    ((∃ message, (find rs platform files : Finding τ Installation).outcome
        = .error (.launch (.nowhereToSearch message))) ↔ rs = []) := by
  have hfirst : rs.find? (¬ Lacks platform files ·) = rs.find? (Holds platform files ·) :=
    List.find?_congr fun root hroot => decide_eq_decide.mpr (h root hroot).not_lacks_iff
  refine ⟨?_, fun ⟨_, hnowhere⟩ => (of_outcome_search_nowhere hnowhere).1, ?_⟩
  · rw [find, outcome_search, hfirst]
    cases hfound : rs.find? (Holds platform files ·) with
    | some root =>
      have hholds : Holds platform files root := by simpa using List.find?_some hfound
      exact if_pos hholds
    | none =>
      dsimp only
      rw [error_under]
      split <;> rfl
  · rintro rfl
    exact ⟨_, rfl⟩

/-- A server is missing at the root of a file tree, and an interpreter in a directory
of it that is not there: it is that interpreter that is reported. -/
theorem find_first_or_blame_of_two :
    let files : FileTree := ⟨[], [(["jre"], .directory), (["jre", "bin"], .directory),
      (["jre", "bin", "java"], .file .empty)]⟩
    let rs : List Path := [.ofString "/", .ofString "/b"]
    (∀ root ∈ rs, CanBeLookedAt .linux files root) ∧
      (find rs .linux files : Finding Rat Installation).outcome
        = .error (.launch (.absent "/b/jre/bin/java")) := by
  intro files rs
  have hexists : files.exists? (interpreter (.ofString "/") .linux) = some true ∧
      files.exists? (payload (.ofString "/")) = some false ∧
      files.exists? (interpreter (.ofString "/b") .linux) = some false ∧
      files.exists? (payload (.ofString "/b")) = some false := by
    decide +kernel
  obtain ⟨hthere, hmissing, hmissing', hmissing''⟩ := hexists
  have h : ∀ root ∈ rs, CanBeLookedAt .linux files root := by
    simp only [rs, List.forall_mem_cons]
    exact ⟨⟨by simp [hthere], by simp [hmissing]⟩, ⟨by simp [hmissing'], by simp [hmissing'']⟩,
      fun _ hnone => absurd hnone List.not_mem_nil⟩
  refine ⟨h, ?_⟩
  have hholds : rs.find? (Holds .linux files ·) = none := by
    simp [rs, Holds, hmissing, hmissing']
  have hlacks : rs.find? (LacksInterpreter .linux files ·) = some (.ofString "/b") := by
    simp [rs, LacksInterpreter, List.find?, hthere, hmissing']
  have htext : (interpreter (.ofString "/b") .linux).toText = "/b/jre/bin/java" := by
    decide +kernel
  rw [(find_first_or_blame h).1, hholds, hlacks]
  dsimp only
  rw [htext]

end LocalServer.Discovery
