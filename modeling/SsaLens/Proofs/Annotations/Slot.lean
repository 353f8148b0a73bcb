import SsaLens.Annotations.Action
import SsaLens.Proofs.SortedMap

/-! # The slot of a file

The annotations hold a slot for each file: empty while the file is hidden, waiting while its report
is computed, and filled once it is there. Every operation works on the slot of its own file.
-/

namespace SsaLens

/-- What is found last, when something is put behind. -/
theorem findSome?_reverse_concat {α β : Type} (find : α → Option β) (items : List α) (item : α) :
    (items ++ [item]).reverse.findSome? find =
      (find item).or (items.reverse.findSome? find) := by
  rw [List.reverse_append, List.reverse_singleton, List.singleton_append, List.findSome?_cons]
  cases find item <;> rfl

namespace FileAnnotations

/-- A switch fills an empty slot with the mark that a report is awaited, and empties any other. -/
def switch : Option FileAnnotations → Option FileAnnotations
  | none => some .pending
  | some _ => none

/-- A report that was computed goes into a slot that waits. -/
def arrive (report : Report) : Option FileAnnotations → Option FileAnnotations
  | some .pending => some (.ready report)
  | some (.ready kept) => some (.ready kept)
  | none => none

/-- A new report goes into a slot that is not empty. -/
def renew (report : Report) : Option FileAnnotations → Option FileAnnotations
  | none => none
  | some _ => some (.ready report)

/-- The report in a slot. -/
def content : Option FileAnnotations → Option Report
  | some (.ready report) => some report
  | some .pending => none
  | none => none

/-- An arriving report neither shows nor hides a file. -/
@[simp] theorem isSome_arrive (report : Report) (slot : Option FileAnnotations) :
    (arrive report slot).isSome = slot.isSome := by
  rcases slot with _ | _ | kept <;> rfl

/-- A renewed report neither shows nor hides a file. -/
@[simp] theorem isSome_renew (report : Report) (slot : Option FileAnnotations) :
    (renew report slot).isSome = slot.isSome := by
  cases slot <;> rfl

/-- A switch shows what is hidden and hides what is shown. -/
@[simp] theorem isSome_switch (slot : Option FileAnnotations) :
    (switch slot).isSome = !slot.isSome := by
  cases slot <;> rfl

/-- A late report makes no difference to a slot that was renewed in between. -/
theorem renew_arrive (first second : Report) (slot : Option FileAnnotations) :
    renew second (arrive first slot) = renew second slot := by
  rcases slot with _ | _ | kept <;> rfl

/-- A report that arrives after a renewal comes too late. -/
theorem arrive_renew (first second : Report) (slot : Option FileAnnotations) :
    arrive first (renew second slot) = renew second slot := by
  cases slot <;> rfl

end FileAnnotations

namespace Annotations

open FileAnnotations

variable (annotations : Annotations) (fileName probe : String) (report : Report)

/-- A file is shown exactly if it has a slot. -/
theorem isShown_eq_isSome : annotations.isShown fileName = (annotations.get? fileName).isSome := rfl

/-- The report of a file is what its slot holds. -/
theorem report?_eq_content : annotations.report? fileName = content (annotations.get? fileName) := by
  unfold report?
  rcases annotations.get? fileName with _ | _ | kept <;> rfl

theorem get?_eq_none_iff :
    annotations.get? fileName = none ↔ annotations.isShown fileName = false := by
  rw [isShown_eq_isSome, Option.isSome_eq_false_iff, Option.isNone_iff_eq_none]

/-- A hidden file has no report. -/
theorem report?_of_hidden {annotations : Annotations} {fileName : String}
    (h : annotations.isShown fileName = false) : annotations.report? fileName = none := by
  rw [report?_eq_content, (get?_eq_none_iff annotations fileName).mpr h, content]

/-- An entry switches the slot of its file only. -/
theorem get?_enter :
    (annotations.enter fileName).1.get? probe =
      if fileName = probe then switch (annotations.get? probe) else annotations.get? probe := by
  unfold enter
  rw [isShown_eq_isSome]
  by_cases heq : fileName = probe
  · subst heq
    cases hslot : annotations.get? fileName <;> simp [switch]
  · split <;> simp [heq]

/-- An entry answers what it makes of the file. -/
theorem enter_snd :
    (annotations.enter fileName).2 = if annotations.isShown fileName then .hidden else .shown := by
  unfold enter
  split <;> rfl

/-- A delivery changes the slot of its file only, and only if it waits. -/
theorem get?_deliver :
    (annotations.deliver fileName report).get? probe =
      if fileName = probe then arrive report (annotations.get? probe)
      else annotations.get? probe := by
  by_cases heq : fileName = probe
  · subst heq
    unfold deliver
    rcases hslot : annotations.get? fileName with _ | _ | kept <;> simp [arrive, hslot]
  · unfold deliver
    split <;> simp [heq]

/-- A refresh changes the slot of its file only, and only if the file is shown. -/
theorem get?_refresh :
    (annotations.refresh fileName report).get? probe =
      if fileName = probe then renew report (annotations.get? probe)
      else annotations.get? probe := by
  unfold refresh
  rw [isShown_eq_isSome]
  by_cases heq : fileName = probe
  · subst heq
    cases hslot : annotations.get? fileName <;> simp [renew, hslot]
  · split <;> simp [heq]

/-- The files that are shown stand in the list in order, and each once. -/
theorem shownFiles_ascending : annotations.shownFiles.Pairwise (· < ·) :=
  SortedMap.keys_ascending annotations

/-- The files that are listed as shown are those that are shown. -/
theorem mem_shownFiles_iff : probe ∈ annotations.shownFiles ↔ annotations.isShown probe = true :=
  SortedMap.mem_keys_iff

end Annotations

end SsaLens
