import SsaLens.Dump
import SsaLens.Explorer
import SsaLens.Report

/-! # Builds

Listings and reports are made by builds of the compiler. A build prints something, cannot be
started, or breaks down. Looking something up records the builds it took, in order.
-/

namespace SsaLens

/-- What the compiler is asked for, and in which directory. -/
inductive Build where
  | dump (directory function : String)
  | report (directory fileName : String)
  deriving DecidableEq, Repr

/-- How a build ended. The exit status of one that ran decides nothing. -/
inductive Outcome where
  | printed (output : String) (status : Nat)
  | unstartable (reason : String)
  | crashed (reason : String)
  deriving DecidableEq, Repr

/-- A behaviour of the compiler while something is looked up. -/
abbrev Compiler := Build → Outcome

/-- A result together with the builds that it took, in order. -/
structure Traced (α : Type) where
  value : α
  builds : List (Build × Outcome)

namespace Traced

variable {α β : Type}

instance : Monad Traced where
  pure value := ⟨value, []⟩
  bind first next :=
    ⟨(next first.value).value, first.builds ++ (next first.value).builds⟩

@[simp] theorem value_pure (value : α) : (pure value : Traced α).value = value := rfl

@[simp] theorem builds_pure (value : α) : (pure value : Traced α).builds = [] := rfl

/-- The value of two traced steps is that of the second, which sees the value of the first. -/
@[simp] theorem value_bind (first : Traced α) (next : α → Traced β) :
    (first >>= next).value = (next first.value).value := rfl

/-- The builds of the first step come before those of the second. -/
@[simp] theorem builds_bind (first : Traced α) (next : α → Traced β) :
    (first >>= next).builds = first.builds ++ (next first.value).builds := rfl

/-- A traced value is its value and its builds. -/
theorem ext_parts {first second : Traced α} (hvalue : first.value = second.value)
    (hbuilds : first.builds = second.builds) : first = second := by
  cases first
  cases second
  cases hvalue
  cases hbuilds
  rfl

instance : LawfulMonad Traced := LawfulMonad.mk' Traced
  (fun _ => ext_parts rfl (List.append_nil _))
  (fun _ _ => ext_parts rfl (List.nil_append _))
  (fun _ _ _ => ext_parts rfl (List.append_assoc _ _ _))

end Traced

namespace Compiler

/-- Run one build. -/
def run (compiler : Compiler) (build : Build) : Traced Outcome :=
  ⟨compiler build, [(build, compiler build)]⟩

/-- Build and cut out the dump of a function. A build that cannot be started has no dump. -/
def loadDump (compiler : Compiler) (directory function : String) :
    Traced (Except ExplorerError Dump) :=
  if directory = "" then pure (.error .noWorkspace)
  else do
    match ← compiler.run (.dump directory function) with
    | .crashed reason => pure (.error (.toolchain reason))
    | .unstartable _ => pure (found "")
    | .printed output _ => pure (found output)
where
  found (output : String) : Except ExplorerError Dump :=
    match Dump.extract output function with
    | some dump => .ok dump
    | none => .error (.notFound function)

/-- Build one file and read its report; no failure is worse than an empty report. -/
def loadReport (compiler : Compiler) (directory fileName : String) : Traced Report :=
  if directory = "" ∨ fileName = "" then pure ∅
  else do
    match ← compiler.run (.report directory fileName) with
    | .printed output _ => pure (Report.parse output)
    | .unstartable _ | .crashed _ => pure ∅

end Compiler

end SsaLens
