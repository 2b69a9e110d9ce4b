import LocalServer.Proofs.SearchResult
import Mathlib.Data.List.Sort

/-!
# Roots that come twice

The roots come from several places, and one directory may come from two of them: a
directory for resources that lies within the application is a root for itself, and a
root of the bundle too. Paths that are written differently may be one path, for what a
text says twice is dropped when it is read. So the roots to search are the first
occurrences of all roots (`Discovery.FirstOccurrences`), which is to say each of them
once, in the order in which they come for the first time.

For the search it makes no difference. A root that stands in the list before has been
passed over already when the search comes to it again, and whatever was missing there is
remembered from the first time. All that the search asks of its list is which root is
the first of a kind, and a list that loses a repetition has the same answer
(`find?_of_dropsRepeated`). So the search comes to the same end, whichever it is, with as
many or as few of the repetitions as one likes (`Discovery.find_ignores_repetitions`).
-/

namespace LocalServer.Discovery

variable {τ : Type} {platform : Platform} {files : FileTree} {p : Path}
  {ps qs rs rs' before after : List Path}

/-! ## First occurrences -/

/-- **The first occurrences** of the paths in a list: the same paths, and of two of them
the one comes first that comes first in the list. -/
structure FirstOccurrences (ps qs : List Path) : Prop where
  mem_iff : ∀ p, p ∈ qs ↔ p ∈ ps
  order : qs.Pairwise fun p q => ps.idxOf p < ps.idxOf q

/-- Among the first occurrences no path comes twice. -/
theorem FirstOccurrences.nodup (h : FirstOccurrences ps qs) : qs.Nodup :=
  h.order.imp fun hlt heq => by
    rw [heq] at hlt
    exact lt_irrefl _ hlt

/-- **There is one list of first occurrences.** -/
theorem FirstOccurrences.unique (h : FirstOccurrences ps qs) (h' : FirstOccurrences ps rs) :
    qs = rs := by
  have hperm : qs.Perm rs := (List.perm_ext_iff_of_nodup h.nodup h'.nodup).mpr fun p =>
    (h.mem_iff p).trans (h'.mem_iff p).symm
  exact hperm.eq_of_pairwise (fun _ _ _ _ hlt hgt => absurd hgt hlt.asymm) h.order h'.order

theorem mem_dedup : p ∈ dedup ps ↔ p ∈ ps := by
  induction ps with
  | nil => rfl
  | cons q ps ih =>
    rw [dedup, List.mem_cons, List.mem_filter, ih, decide_eq_true_eq, List.mem_cons]
    by_cases hp : p = q
    · exact iff_of_true (Or.inl hp) (Or.inl hp)
    · rw [and_iff_left hp]

/-- **The roots to search** are the first occurrences of all roots. -/
theorem firstOccurrences_dedup (ps : List Path) : FirstOccurrences ps (dedup ps) := by
  refine ⟨fun _ => mem_dedup, ?_⟩
  induction ps with
  | nil => exact List.Pairwise.nil
  | cons q ps ih =>
    -- the first path of all stands before the others, which only move on by one place
    have hlater : ∀ p ∈ (dedup ps).filter (· ≠ q),
        (q :: ps).idxOf p = ps.idxOf p + 1 := fun p hp =>
      List.idxOf_cons_ne ps fun heq => by simp [heq] at hp
    refine List.pairwise_cons.mpr ⟨fun p hp => ?_, ?_⟩
    · rw [List.idxOf_cons_self, hlater p hp]
      exact Nat.succ_pos _
    · refine (ih.filter _).imp_of_mem fun {p p'} hp hp' hlt => ?_
      rw [hlater p hp, hlater p' hp']
      exact Nat.succ_lt_succ hlt

/-! ## Repetitions -/

/-- **A list loses repetitions**, none or one after the other: each is a path that still
stands in the list before. -/
inductive DropsRepeated : List Path → List Path → Prop
  /-- Nothing is lost. -/
  | refl (ps : List Path) : DropsRepeated ps ps
  /-- A path is lost that stands in the list before, and then others are. -/
  | drop {before after qs : List Path} {p : Path} (repeated : p ∈ before)
      (rest : DropsRepeated (before ++ after) qs) : DropsRepeated (before ++ p :: after) qs

/-- All repetitions of a path may be lost at once. -/
theorem dropsRepeated_filter (hp : p ∈ before) (ps : List Path) :
    DropsRepeated (before ++ ps) (before ++ ps.filter (· ≠ p)) := by
  induction ps generalizing before with
  | nil => exact .refl _
  | cons q ps ih =>
    by_cases hq : q = p
    · rw [List.filter_cons_of_neg (by simp [hq]), hq]
      exact .drop hp (ih hp)
    · have hstep := ih (List.mem_append_left [q] hp)
      rw [List.append_assoc, List.append_assoc] at hstep
      rw [List.filter_cons_of_pos (by simp [hq])]
      exact hstep

theorem DropsRepeated.trans (h : DropsRepeated ps qs) (h' : DropsRepeated qs rs) :
    DropsRepeated ps rs := by
  induction h with
  | refl => exact h'
  | drop repeated _ ih => exact .drop repeated (ih h')

theorem DropsRepeated.cons (p : Path) (h : DropsRepeated ps qs) :
    DropsRepeated (p :: ps) (p :: qs) := by
  induction h with
  | refl ps => exact .refl _
  | @drop before after qs q repeated _ ih =>
    show DropsRepeated ((p :: before) ++ q :: after) (p :: qs)
    exact .drop (List.mem_cons_of_mem p repeated) ih

/-- **The roots to search** are all roots, less the repetitions. -/
theorem dropsRepeated_dedup (ps : List Path) : DropsRepeated ps (dedup ps) := by
  induction ps with
  | nil => exact .refl _
  | cons p ps ih =>
    exact (ih.cons p).trans (dropsRepeated_filter (List.mem_singleton_self p) _)

/-! ## The search -/

/-- **A repetition is never the first of a kind.** -/
theorem find?_of_mem (hp : p ∈ before) (kind : Path → Bool) :
    (before ++ p :: after).find? kind = (before ++ after).find? kind := by
  rw [List.find?_append, List.find?_append]
  cases hfound : before.find? kind with
  | some q => rfl
  | none =>
    rw [List.find?_cons_of_neg (List.find?_eq_none.mp hfound p hp)]

/-- **The first of a kind** is the same without repetitions. -/
theorem find?_of_dropsRepeated (h : DropsRepeated ps qs) (kind : Path → Bool) :
    qs.find? kind = ps.find? kind := by
  induction h with
  | refl => rfl
  | drop repeated _ ih => rw [ih, find?_of_mem repeated]

/-- **What the search comes to** depends on the first roots of a kind only. -/
theorem outcome_find_congr (h : ∀ kind : Path → Bool, rs'.find? kind = rs.find? kind) :
    (find rs' platform files : Finding τ Installation).outcome
      = (find rs platform files).outcome := by
  rw [find, find, outcome_search, outcome_search, Missing.under, Missing.under, h, h, h]

/-- **The search ignores repetitions.** The roots to search are the first occurrences of
all roots, and no other list is; none of them comes twice. The search under them comes
to what the search under all roots comes to, an installation or an error, which then
names the same file. And so it is for any list of roots that loses some of its
repetitions, or all of them, whatever the platform and the files are. -/
theorem find_ignores_repetitions (platform : Platform) (files : FileTree) :
    (∀ (resources : Option Path) (app : Path),
      (∀ rs, FirstOccurrences (candidates resources app platform) rs ↔
        rs = roots resources app platform) ∧
      (roots resources app platform).Nodup ∧
      (find (roots resources app platform) platform files : Finding τ Installation).outcome
        = (find (candidates resources app platform) platform files).outcome) ∧
    ∀ rs rs', DropsRepeated rs rs' →
      (find rs' platform files : Finding τ Installation).outcome
        = (find rs platform files).outcome := by
  have hdrops : ∀ rs rs', DropsRepeated rs rs' →
      (find rs' platform files : Finding τ Installation).outcome
        = (find rs platform files).outcome :=
    fun rs rs' h => outcome_find_congr (find?_of_dropsRepeated h)
  refine ⟨fun resources app => ?_, hdrops⟩
  have hfirst : FirstOccurrences (candidates resources app platform)
      (roots resources app platform) := firstOccurrences_dedup _
  refine ⟨fun rs => ⟨fun h => h.unique hfirst, fun h => ?_⟩, hfirst.nodup,
    hdrops _ _ (dropsRepeated_dedup _)⟩
  rw [h]
  exact hfirst

/-- A root that is written in another way the second time, and a directory for resources
that is a root of the bundle as well. -/
theorem find_ignores_repetitions_of_spellings :
    let rs : List Path := [.ofString "/opt/app", .ofString "/opt", .ofString "/opt//./app/"]
    let files : FileTree := ⟨[], [(["opt"], .directory)]⟩
    DropsRepeated rs [.ofString "/opt/app", .ofString "/opt"] ∧
      (find [.ofString "/opt/app", .ofString "/opt"] .macos files : Finding Rat _).outcome
        = (find rs .macos files).outcome ∧
      roots (some (.ofString "/opt/app/Resources/")) (.ofString "/opt//app") .macos
        = [.ofString "/opt/app/Resources", .ofString "/opt/app/Resources/resources",
          .ofString "/opt/app", .ofString "/opt/app/resources"] ∧
      (find (roots (some (.ofString "/opt/app/Resources/")) (.ofString "/opt//app") .macos) .macos
          files : Finding Rat _).outcome
        = (find (candidates (some (.ofString "/opt/app/Resources/")) (.ofString "/opt//app")
          .macos) .macos files).outcome := by
  intro rs files
  have hspelling : Path.ofString "/opt//./app/" = .ofString "/opt/app" := by decide +kernel
  have hrepeated : Path.ofString "/opt//./app/"
      ∈ [Path.ofString "/opt/app", .ofString "/opt"] := by
    rw [hspelling]
    exact List.mem_cons_self
  have hdrops : DropsRepeated rs [.ofString "/opt/app", .ofString "/opt"] :=
    .drop hrepeated (.refl ([Path.ofString "/opt/app", .ofString "/opt"] ++ []))
  have hignores := find_ignores_repetitions (τ := Rat) .macos files
  exact ⟨hdrops, hignores.2 _ _ hdrops, by decide +kernel, (hignores.1 _ _).2.2⟩

end LocalServer.Discovery
