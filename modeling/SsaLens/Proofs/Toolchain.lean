import SsaLens.Proofs.SortedMap
import SsaLens.Proofs.Text.Utf8
import SsaLens.Toolchain

/-! # Builds that start

The operating system takes no text that holds a NUL. If the toolchain and what is asked for hold
none, then a build hands over none either, so the machine decides what comes of it.
-/

namespace SsaLens

namespace Text

/-- A text that the operating system takes. -/
def NulFree (text : String) : Prop := '\x00' ∉ text.toList

instance : DecidablePred NulFree := fun text => inferInstanceAs (Decidable ('\x00' ∉ text.toList))

theorem NulFree.append {first second : String} (hfirst : NulFree first) (hsecond : NulFree second) :
    NulFree (first ++ second) := by
  rw [NulFree, String.toList_append, List.mem_append]
  exact not_or.mpr ⟨hfirst, hsecond⟩

end Text

open Text (NulFree)

theorem Invocation.holdsNul_eq_false_iff (invocation : Invocation) :
    invocation.holdsNul = false ↔ ∀ text ∈ invocation.texts, NulFree text := by
  simp [holdsNul, NulFree]

/-- What is asked for by a build. -/
def Build.texts : Build → List String
  | dump directory function => [directory, function]
  | report directory fileName => [directory, fileName]

namespace Toolchain

variable {toolchain : Toolchain} {build : Build}

/-- The texts that the builds of a toolchain have in common. -/
def texts (toolchain : Toolchain) : List String :=
  toolchain.binary :: toolchain.environment.flatMap fun entry => [entry.1, entry.2]

theorem nulFree_of_mem_extraVariables (h : ∀ text ∈ toolchain.texts, NulFree text)
    {entry : String × String} (hentry : entry ∈ toolchain.extraVariables.entries) :
    NulFree entry.1 ∧ NulFree entry.2 := by
  have hset : entry ∈ toolchain.environment := SortedMap.mem_of_mem_entries_ofEntries hentry
  have htexts : ∀ text ∈ [entry.1, entry.2], NulFree text := fun text htext =>
    h text (List.mem_cons_of_mem _ (List.mem_flatMap.mpr ⟨entry, hset, htext⟩))
  exact ⟨htexts entry.1 (by simp), htexts entry.2 (by simp)⟩

theorem nulFree_of_mem_variables (h : ∀ text ∈ toolchain.texts, NulFree text)
    (hbuild : ∀ text ∈ build.texts, NulFree text) {entry : String × String}
    (hentry : entry ∈ (toolchain.invocation build).environment.entries) :
    NulFree entry.1 ∧ NulFree entry.2 := by
  cases build with
  | dump directory function =>
      rcases SortedMap.eq_or_mem_of_mem_entries_insert hentry with rfl | hentry
      · have hname : NulFree "GOSSAFUNC" := by decide
        have hplus : NulFree "+" := by decide
        have hfunction : NulFree function := hbuild function (by simp [Build.texts])
        exact ⟨hname, hfunction.append hplus⟩
      · exact nulFree_of_mem_extraVariables h hentry
  | report directory fileName => exact nulFree_of_mem_extraVariables h hentry

theorem nulFree_of_mem_arguments (hbuild : ∀ text ∈ build.texts, NulFree text) {text : String}
    (htext : text ∈ (toolchain.invocation build).arguments) : NulFree text := by
  cases build with
  | dump directory function =>
      have hconstant : ∀ text ∈ ["build", "./..."], NulFree text := by decide
      exact hconstant text htext
  | report directory fileName =>
      have hconstant : ∀ text ∈ ["build", "-gcflags=-m=2"], NulFree text := by decide
      have hdirectory : NulFree directory := hbuild directory (by simp [Build.texts])
      have hfileName : NulFree fileName := hbuild fileName (by simp [Build.texts])
      have htarget : text ∈ ["build", "-gcflags=-m=2"] ++ [directory ++ fileName] := htext
      rcases List.mem_append.mp htarget with htext | htext
      · exact hconstant text htext
      · exact List.mem_singleton.mp htext ▸ hdirectory.append hfileName

theorem holdsNul_invocation (h : ∀ text ∈ toolchain.texts, NulFree text)
    (hbuild : ∀ text ∈ build.texts, NulFree text) : (toolchain.invocation build).holdsNul = false := by
  rw [Invocation.holdsNul_eq_false_iff]
  intro text htext
  rcases List.mem_append.mp htext with htext | htext
  · rcases List.mem_cons.mp htext with rfl | htext
    · have hbinary : (toolchain.invocation build).program = toolchain.binary := by cases build <;> rfl
      exact hbinary ▸ h toolchain.binary List.mem_cons_self
    · rcases List.mem_cons.mp htext with rfl | htext
      · have hdirectory : (toolchain.invocation build).directory ∈ build.texts := by
          cases build <;> exact List.mem_cons_self
        exact hbuild _ hdirectory
      · exact nulFree_of_mem_arguments hbuild htext
  · obtain ⟨entry, hentry, htext⟩ := List.mem_flatMap.mp htext
    obtain ⟨hname, hvalue⟩ := nulFree_of_mem_variables h hbuild hentry
    exact List.forall_mem_cons.mpr ⟨hname, List.forall_mem_singleton.mpr hvalue⟩ text htext

/-- What the started program prints is what the build prints. -/
theorem compiler_of_ran {machine : Machine} {output : String} {status : Nat}
    (h : ∀ text ∈ toolchain.texts, NulFree text) (hbuild : ∀ text ∈ build.texts, NulFree text)
    (hran : machine (toolchain.invocation build) = .ran (Text.Utf8.encode output) status) :
    toolchain.compiler machine build = .printed output status := by
  have hstart : (toolchain.invocation build).start machine =
      .ran (Text.Utf8.encode output) status := by
    rw [Invocation.start, holdsNul_invocation h hbuild]
    exact hran
  rw [compiler, hstart]
  dsimp only
  rw [Text.Utf8.lossy_encode]

end Toolchain

end SsaLens
