import Mathlib.Data.Prod.Lex
import Mathlib.Order.WellFounded
import SsaLens.Proofs.Text.Span
import SsaLens.Verdict.Diagnostic

/-! # The grammar of diagnostics

A diagnostic is read in one of three forms. A reading of a text is a way to cut it into the parts
of a form; a text can have several, since its file part may itself look like a diagnostic. This
module says what the readings are and which one counts, without searching for it.
-/

namespace SsaLens.Diagnostic

open Text

/-- The message of an inlinable function. -/
structure Inlinable (message : List Char) where
  gap : List Char
  name : List Char
  cost : List Char
  shape : List Char
  message_eq : message = gap ++ ("can inline ".toList ++ (name ++ (" with cost ".toList ++
    (cost ++ (" as: ".toList ++ shape)))))
  gap_run : Run isBlank gap
  name_run : Run (!isBlank ·) name
  cost_run : Run isDigit cost
  shape_ne_nil : shape ≠ []
  shape_one_line : '\n' ∉ shape

/-- The message of a function that is not inlinable. -/
structure Refused (message : List Char) where
  name : List Char
  gap : List Char
  reason : List Char
  message_eq : message = " cannot inline ".toList ++ (name ++ ':' :: (gap ++ reason))
  name_run : Run (!isBlank ·) name
  gap_blank : ∀ c ∈ gap, isBlank c = true
  reason_one_line : '\n' ∉ reason

/-- The message of an inlined call. -/
structure InlinedCall (message : List Char) where
  name : List Char
  message_eq : message = " inlining call to ".toList ++ name
  name_run : Run (!isBlank ·) name

/-- Of the ways to read a message, the one with the longest name, and of those the one with the
longest gap behind it. -/
def Refused.Greedy {message : List Char} (refused : Refused message) : Prop :=
  ∀ other : Refused message, other.name.length ≤ refused.name.length ∧
    (other.name.length = refused.name.length → other.gap.length ≤ refused.gap.length)

/-- A reading of a text: a file part, a line and a column, and a message of a form. -/
structure Reading (Form : List Char → Type) (text : List Char) where
  file : List Char
  line : List Char
  column : List Char
  message : List Char
  form : Form message
  text_eq : text = file ++ ':' :: (line ++ ':' :: (column ++ ':' :: message))
  file_ne_nil : file ≠ []
  file_one_line : '\n' ∉ file
  line_run : Run isDigit line
  column_run : Run isDigit column

/-- No reading of the text in this form has a shorter file part. -/
def Reading.Shortest {Form : List Char → Type} {text : List Char} (reading : Reading Form text) :
    Prop :=
  ∀ other : Reading Form text, reading.file.length ≤ other.file.length

/-- A place in a reason where `cost` and a number stand. -/
structure CostMention (reason : List Char) where
  before : List Char
  digits : List Char
  after : List Char
  reason_eq : reason = before ++ ("cost ".toList ++ (digits ++ after))
  digits_run : Run isDigit digits
  after_stops : Stops isDigit after

/-- The cost that a reason quotes is the leftmost one that it mentions. -/
inductive QuotedCost (reason : List Char) : Option (List Char) → Prop where
  | mentioned (mention : CostMention reason)
      (hleftmost : ∀ other : CostMention reason, mention.before.length ≤ other.before.length) :
      QuotedCost reason (some mention.digits)
  | absent (hnone : IsEmpty (CostMention reason)) : QuotedCost reason none

/-- What a text says as a diagnostic. The first form with a reading decides, by its reading with the
shortest file part; if the line of that reading is no line number, the text says nothing. -/
inductive Classified (text : List Char) : Option (UInt32 × Verdict) → Prop where
  | inlinable (reading : Reading Inlinable text) (hshortest : reading.Shortest) :
      Classified text ((lineNumber? reading.line).map fun number =>
        (number, .canInline (String.ofList reading.form.name) (String.ofList reading.form.cost)
          (String.ofList reading.form.shape)))
  | refused (hinlinable : IsEmpty (Reading Inlinable text)) (reading : Reading Refused text)
      (hshortest : reading.Shortest) (hgreedy : reading.form.Greedy) (cost : Option (List Char))
      (hcost : QuotedCost (reading.form.reason.rdropWhile isBlank) cost) :
      Classified text ((lineNumber? reading.line).map fun number =>
        (number, .cannotInline (String.ofList reading.form.name)
          (String.ofList (reading.form.reason.rdropWhile isBlank)) (cost.map String.ofList)))
  | inlinedCall (hinlinable : IsEmpty (Reading Inlinable text))
      (hrefused : IsEmpty (Reading Refused text)) (reading : Reading InlinedCall text)
      (hshortest : reading.Shortest) :
      Classified text ((lineNumber? reading.line).map fun number =>
        (number, .inlinedCall (String.ofList reading.form.name)))
  | unread (hinlinable : IsEmpty (Reading Inlinable text))
      (hrefused : IsEmpty (Reading Refused text)) (hcall : IsEmpty (Reading InlinedCall text)) :
      Classified text none

/-! ## Something always counts -/

/-- Of the readings of a text, one has the shortest file part. -/
theorem exists_shortest {Form : List Char → Type} {text : List Char}
    (h : Nonempty (Reading Form text)) : ∃ reading : Reading Form text, reading.Shortest :=
  ⟨_, fun other => Function.argmin_le (fun reading : Reading Form text => reading.file.length) other⟩

namespace Refused

variable {message : List Char}

theorem name_length_le (refused : Refused message) : refused.name.length ≤ message.length := by
  have := congrArg List.length refused.message_eq
  simp only [List.length_append, List.length_cons] at this
  omega

theorem gap_length_le (refused : Refused message) : refused.gap.length ≤ message.length := by
  have := congrArg List.length refused.message_eq
  simp only [List.length_append, List.length_cons] at this
  omega

/-- Names and gaps are parts of the message, so a longest one exists. -/
theorem exists_greedy (h : Nonempty (Refused message)) :
    ∃ refused : Refused message, refused.Greedy := by
  -- the reading that leaves out the least, first behind its name and then behind its gap
  obtain ⟨best, hbest⟩ : ∃ best : Refused message, ∀ other : Refused message,
      toLex (message.length - best.name.length, message.length - best.gap.length) ≤
        toLex (message.length - other.name.length, message.length - other.gap.length) :=
    ⟨_, fun other => Function.argmin_le (fun refused : Refused message =>
      toLex (message.length - refused.name.length, message.length - refused.gap.length)) other⟩
  refine ⟨best, fun other => ?_⟩
  have hname := best.name_length_le
  have hgap := best.gap_length_le
  have hothername := other.name_length_le
  have hothergap := other.gap_length_le
  rcases Prod.Lex.le_iff.mp (hbest other) with hlt | ⟨heq, hle⟩
  · simp only [ofLex_toLex] at hlt
    omega
  · simp only [ofLex_toLex] at heq hle
    omega

end Refused

/-- For every reason the grammar says what cost it quotes. -/
theorem exists_quotedCost (reason : List Char) : ∃ cost, QuotedCost reason cost := by
  by_cases h : Nonempty (CostMention reason)
  · exact ⟨_, .mentioned _ fun other =>
      Function.argmin_le (fun mention : CostMention reason => mention.before.length) other⟩
  · exact ⟨none, .absent (not_nonempty_iff.mp h)⟩

end SsaLens.Diagnostic
