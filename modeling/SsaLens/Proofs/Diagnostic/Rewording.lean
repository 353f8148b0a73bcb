import SsaLens.Proofs.Diagnostic.Classification

/-! # Reading a wording again

The wording of a verdict can be read as a diagnostic again, behind a file, a line and a column. A file
without colons leaves one place to read a message at, unless a later part of the text looks like a
diagnostic of its own. The wording of a call has no blank behind its first colon, and a reason that
could be read as the message of an inlinable function would quote a cost, which stands in for it.
-/

namespace SsaLens.Diagnostic

open Text

/-! ## Places -/

/-- What stands in front of a message: a file without colons, a line and a column. -/
structure Place where
  file : List Char
  line : List Char
  column : List Char
  file_ne_nil : file ≠ []
  colon_notMem : ':' ∉ file
  newline_notMem : '\n' ∉ file
  line_run : Run isDigit line
  column_run : Run isDigit column

namespace Place

/-- A message at a place. -/
def text (place : Place) (message : List Char) : List Char :=
  place.file ++ ':' :: (place.line ++ ':' :: (place.column ++ ':' :: message))

/-- The message as it is, read at its place. -/
def reading {Form : List Char → Type} (place : Place) {message : List Char} (form : Form message) :
    Reading Form (place.text message) where
  file := place.file
  line := place.line
  column := place.column
  message := message
  form := form
  text_eq := rfl
  file_ne_nil := place.file_ne_nil
  file_one_line := place.newline_notMem
  line_run := place.line_run
  column_run := place.column_run

variable {Form : List Char → Type} {place : Place} {message : List Char}

theorem colon_notMem_of_run {digits : List Char} (h : Run isDigit digits) : ':' ∉ digits := by
  intro hmem
  exact absurd (h.forall_mem ':' hmem) (by decide)

/-- A message at a place is read there, or behind one of its colons. -/
theorem reading_cases (hmessage : Stops isDigit message) (reading : Reading Form (place.text message)) :
    (place.file = reading.file ∧ message = reading.message) ∨
      (place.file.length ≤ reading.file.length ∧ ':' :: reading.message <:+ message) := by
  -- a message that begins with a digit is none of the place's own
  have hdigit : ∀ {digits rest : List Char}, Run isDigit digits → message ≠ digits ++ rest := by
    intro digits rest hrun heq
    obtain ⟨c, tail, rfl⟩ := List.exists_cons_of_ne_nil hrun.ne_nil
    have hstop := hmessage c (by rw [heq]; rfl)
    rw [hrun.forall_mem c List.mem_cons_self] at hstop
    exact absurd hstop.symm Bool.false_ne_true
  have hstops : ∀ {rest : List Char}, Stops isDigit (':' :: rest) := stops_cons rfl
  rcases append_cons_cases place.colon_notMem reading.text_eq with ⟨hfile, hrest⟩ | ⟨file, hfile, hrest⟩
  · obtain ⟨-, hrest⟩ := append_inj_of_stops place.line_run.forall_mem reading.line_run.forall_mem
      hstops hstops hrest
    obtain ⟨-, hrest⟩ := append_inj_of_stops place.column_run.forall_mem
      reading.column_run.forall_mem hstops hstops (List.cons.inj hrest).2
    exact Or.inl ⟨hfile, (List.cons.inj hrest).2⟩
  refine Or.inr ⟨by simp [hfile], ?_⟩
  rcases append_cons_cases (colon_notMem_of_run place.line_run) hrest with
    ⟨-, hrest⟩ | ⟨line, -, hrest⟩
  · obtain ⟨-, hrest⟩ := append_inj_of_stops place.column_run.forall_mem reading.line_run.forall_mem
      hstops hstops hrest
    exact absurd (List.cons.inj hrest).2 (hdigit reading.column_run)
  rcases append_cons_cases (colon_notMem_of_run place.column_run) hrest with
    ⟨-, hrest⟩ | ⟨front, -, hrest⟩
  · exact absurd hrest (hdigit reading.line_run)
  · exact ⟨front ++ ':' :: (reading.line ++ ':' :: reading.column), Eq.trans (by simp) hrest.symm⟩

/-- No shorter file part can be read in a place whose message begins with no digit. -/
theorem reading_shortest (place : Place) (hmessage : Stops isDigit message) (form : Form message) :
    (place.reading form).Shortest := by
  intro other
  rcases reading_cases hmessage other with ⟨hfile, -⟩ | ⟨hlength, -⟩
  · exact (congrArg List.length hfile).le
  · exact hlength

/-- Behind a place a form is read only from the message, or from what follows a colon in it. -/
theorem isEmpty_reading (hmessage : Stops isDigit message) (hhere : IsEmpty (Form message))
    (hlater : ∀ said, ':' :: said <:+ message → IsEmpty (Form said)) :
    IsEmpty (Reading Form (place.text message)) := by
  refine ⟨fun reading => ?_⟩
  rcases reading_cases hmessage reading with ⟨-, hsame⟩ | ⟨-, hwithin⟩
  · exact hhere.elim (hsame ▸ reading.form)
  · exact (hlater reading.message hwithin).elim reading.form

end Place

/-! ## Calls -/

/-- Without a blank there is no message of the first form. -/
theorem isEmpty_inlinable_of_notBlank {message : List Char} (h : ∀ c ∈ message, isBlank c = false) :
    IsEmpty (Inlinable message) := by
  refine ⟨fun inlinable => ?_⟩
  obtain ⟨c, rest, hgap⟩ := List.exists_cons_of_ne_nil inlinable.gap_run.ne_nil
  have hblank := inlinable.gap_run.forall_mem c (hgap ▸ List.mem_cons_self)
  have hmem : c ∈ message := by
    rw [inlinable.message_eq, hgap]
    exact List.mem_cons_self
  rw [h c hmem] at hblank
  exact absurd hblank Bool.false_ne_true

/-- Without a blank there is no message of the second form. -/
theorem isEmpty_refused_of_notBlank {message : List Char} (h : ∀ c ∈ message, isBlank c = false) :
    IsEmpty (Refused message) := by
  refine ⟨fun refused => ?_⟩
  have hmem : ' ' ∈ message := by
    rw [refused.message_eq]
    exact List.mem_append_left _ (by decide)
  exact absurd (h ' ' hmem) (by decide)

theorem isEmpty_inlinable_of_none {message : List Char} (h : inlinable? message = none) :
    IsEmpty (Inlinable message) :=
  ⟨fun inlinable => absurd ((inlinable?_eq_some inlinable).symm.trans h) (Option.some_ne_none _)⟩

variable {place : Place} {number : UInt32} {name reason : List Char} {cost : Option (List Char)}

/-- A line number is read from the numeral that is printed for it. -/
theorem lineNumber?_numeral (number : UInt32) : lineNumber? (numeral number.toNat) = some number := by
  rw [← readLine?_eq_lineNumber? (numeral_ne_nil _), readLine?_numeral]

/-- A call that is printed at a place is read back, at the line of the place. -/
theorem classify_call (hline : place.line = numeral number.toNat) (hname : Run (!isBlank ·) name) :
    classify (String.ofList (place.text (" inlining call to ".toList ++ name))) =
      some (number, .inlinedCall (String.ofList name)) := by
  have hmessage : Stops isDigit (" inlining call to ".toList ++ name) := stops_cons rfl
  have hlater : ∀ said, ':' :: said <:+ " inlining call to ".toList ++ name →
      ∀ c ∈ said, isBlank c = false := by
    intro said hsaid c hc
    have hwithin := suffix_of_suffix_append (by decide) hsaid
    simpa using hname.forall_mem c (hwithin.subset (List.mem_cons_of_mem ':' hc))
  have hinlinable : IsEmpty (Reading Inlinable (place.text (" inlining call to ".toList ++ name))) :=
    Place.isEmpty_reading hmessage (isEmpty_inlinable_of_none rfl) fun said hsaid =>
      isEmpty_inlinable_of_notBlank (hlater said hsaid)
  have hrefused : IsEmpty (Reading Refused (place.text (" inlining call to ".toList ++ name))) := by
    refine Place.isEmpty_reading hmessage ⟨fun refused => ?_⟩ fun said hsaid =>
      isEmpty_refused_of_notBlank (hlater said hsaid)
    exact absurd refused.message_eq (by simp)
  have hclassified := Classified.inlinedCall hinlinable hrefused
    (place.reading ⟨name, rfl, hname⟩) (place.reading_shortest hmessage _)
  rw [classify_of_classified hclassified]
  simp only [Place.reading, hline, lineNumber?_numeral, Option.map_some]

/-! ## Functions that are not inlinable -/

/-- The parts of a verdict on a function that is not inlinable, as they are read. -/
structure Refusal (name reason : List Char) (cost : Option (List Char)) : Prop where
  name_run : Run (!isBlank ·) name
  one_line : '\n' ∉ reason
  front_stops : Stops isBlank reason
  back_stops : Stops isBlank reason.reverse
  cost_quoted : QuotedCost reason cost

/-- The reason that is given where a cost stands in for it. -/
def overBudget (cost : List Char) : List Char :=
  "function too complex: cost ".toList ++ (cost ++ " exceeds budget 80".toList)

def CostMention.ofSuffix {reason back : List Char} (mention : CostMention back)
    {front : List Char} (h : front ++ back = reason) : CostMention reason where
  before := front ++ mention.before
  digits := mention.digits
  after := mention.after
  reason_eq := by
    rw [← h, List.append_assoc, ← mention.reason_eq]
  digits_run := mention.digits_run
  after_stops := mention.after_stops

/-- The message of an inlinable function quotes a cost behind its first blank. -/
theorem exists_mention_of_inlinable {message : List Char} (inlinable : Inlinable message) :
    ∃ c rest, message = c :: rest ∧ isBlank c = true ∧ 'a' ∈ rest ∧ Nonempty (CostMention rest) := by
  obtain ⟨c, gap, hgap⟩ := List.exists_cons_of_ne_nil inlinable.gap_run.ne_nil
  refine ⟨c, gap ++ ("can inline ".toList ++ (inlinable.name ++ (" with cost ".toList ++
    (inlinable.cost ++ (" as: ".toList ++ inlinable.shape))))), ?_, ?_, ?_, ⟨?_⟩⟩
  · rw [← List.cons_append, ← hgap]
    exact inlinable.message_eq
  · exact inlinable.gap_run.forall_mem c (hgap ▸ List.mem_cons_self)
  · exact List.mem_append_right gap (List.mem_append_left _ (by decide))
  · exact ⟨gap ++ ("can inline ".toList ++ (inlinable.name ++ " with ".toList)), inlinable.cost,
      " as: ".toList ++ inlinable.shape, by simp, inlinable.cost_run, stops_cons rfl⟩

/-- A refusal that is printed is read back by its form. -/
theorem refused?_of_refusal (h : Refusal name reason cost) :
    refused? (" cannot inline ".toList ++ (name ++ ':' :: ' ' :: reason)) =
      some (.cannotInline (String.ofList name) (String.ofList reason) (cost.map String.ofList)) := by
  have hread : beforeLastColon? (name ++ ':' :: ' ' :: reason) = some (name, ' ' :: reason) :=
    beforeLastColon?_append h.name_run List.not_mem_nil
  have hgap : ∀ c ∈ [' '], isBlank c = true := List.forall_mem_singleton.mpr rfl
  have hspoken : (' ' :: reason).dropWhile isBlank = reason :=
    dropWhile_append_of_stops hgap h.front_stops
  simp only [refused?, after?_append, Option.bind_eq_bind, Option.bind_some, hread, hspoken]
  rw [if_pos h.one_line, trimEnd_of_stops h.back_stops,
    (quotedCost_quotedCost? reason).unique h.cost_quoted]

/-- A refusal that is printed at a place is read back, unless its reason is worded with a cost as the
message of an inlinable function is; for that the reason must have the letter `a`. -/
theorem classify_refusal (hline : place.line = numeral number.toNat) (h : Refusal name reason cost)
    (hquiet : 'a' ∈ reason → IsEmpty (CostMention reason)) :
    classify (String.ofList
        (place.text (" cannot inline ".toList ++ (name ++ ':' :: ' ' :: reason)))) =
      some (number, .cannotInline (String.ofList name) (String.ofList reason)
        (cost.map String.ofList)) := by
  set message := " cannot inline ".toList ++ (name ++ ':' :: ' ' :: reason) with hmessage
  have hstops : Stops isDigit message := stops_cons rfl
  have hinlinable : IsEmpty (Reading Inlinable (place.text message)) := by
    refine Place.isEmpty_reading hstops (isEmpty_inlinable_of_none rfl) fun said hsaid => ⟨?_⟩
    intro inlinable
    obtain ⟨c, rest, rfl, hblank, hletter, ⟨mention⟩⟩ := exists_mention_of_inlinable inlinable
    -- the blank in front is not one of the name, so the rest is one of the reason
    have hname : c ∉ name ++ [':'] := by
      intro hmem
      rcases List.mem_append.mp hmem with hc | hc
      · simpa [hblank] using h.name_run.forall_mem c hc
      · obtain rfl := List.mem_singleton.mp hc
        exact absurd hblank (by decide)
    have hbehind : c :: rest <:+ (name ++ [':']) ++ ' ' :: reason := by
      have hwithin := suffix_of_suffix_append (by decide) hsaid
      rw [List.append_assoc]
      exact (List.suffix_cons ':' _).trans hwithin
    have hreason : rest <:+ reason := by
      rcases List.suffix_cons_iff.mp (suffix_of_suffix_append hname hbehind) with heq | hlater
      · exact (List.cons.inj heq).2 ▸ List.suffix_rfl
      · exact (List.suffix_cons c rest).trans hlater
    obtain ⟨front, hfront⟩ := hreason
    have hletter' : 'a' ∈ reason := hfront ▸ List.mem_append_right front hletter
    exact (hquiet hletter').elim (mention.ofSuffix hfront)
  let refused : Refused message :=
    ⟨name, [' '], reason, hmessage, h.name_run, List.forall_mem_singleton.mpr rfl, h.one_line⟩
  have hread := located?_eq_some nonempty_refused (place.reading_shortest hstops refused)
    (refused?_of_refusal h)
  have hnone := located?_eq_none nonempty_inlinable hinlinable
  rw [classify_eq_of_located? place.line_run.ne_nil (by rw [hnone, hread]; rfl)]
  simp only [hline, lineNumber?_numeral, Option.map_some]

/-! ## Verdicts that were read -/

/-- The wording for a function that is too complex quotes its cost. -/
theorem quotedCost_overBudget {cost : List Char} (h : Run isDigit cost) :
    QuotedCost (overBudget cost) (some cost) := by
  have hstops : Stops isDigit " exceeds budget 80".toList := stops_cons rfl
  have hcost : quotedCost? ("cost ".toList ++ (cost ++ " exceeds budget 80".toList)) = some cost :=
    quotedCost?_cons_of_mention ⟨[], cost, " exceeds budget 80".toList, rfl, h, hstops⟩ rfl
  -- no cost is mentioned before
  have hlead : quotedCost? (overBudget cost) =
      quotedCost? ("cost ".toList ++ (cost ++ " exceeds budget 80".toList)) := rfl
  have hquoted := quotedCost_quotedCost? (overBudget cost)
  rwa [hlead, hcost] at hquoted

theorem notMem_overBudget {cost : List Char} {c : Char} (h : Run isDigit cost)
    (hdigit : isDigit c = false) (hlead : c ∉ "function too complex: cost ".toList)
    (htail : c ∉ " exceeds budget 80".toList) : c ∉ overBudget cost := by
  intro hmem
  rcases List.mem_append.mp hmem with hmem | hmem
  · exact hlead hmem
  · rcases List.mem_append.mp hmem with hmem | hmem
    · exact Bool.false_ne_true (hdigit.symm.trans (h.forall_mem c hmem))
    · exact htail hmem

theorem getLast?_overBudget (cost : List Char) : (overBudget cost).getLast? = some '0' := by
  have hend : " exceeds budget 80".toList ≠ [] := by decide
  calc (overBudget cost).getLast?
      = (cost ++ " exceeds budget 80".toList).getLast? :=
        List.getLast?_append_of_ne_nil _ (List.append_ne_nil_of_right_ne_nil cost hend)
    _ = " exceeds budget 80".toList.getLast? := List.getLast?_append_of_ne_nil cost hend
    _ = some '0' := rfl

theorem Refusal.cost_run {cost : List Char} (h : Refusal name reason (some cost)) :
    Run isDigit cost := by
  cases h.cost_quoted with
  | mentioned mention _ => exact mention.digits_run

theorem QuotedCost.isEmpty (h : QuotedCost reason none) : IsEmpty (CostMention reason) := by
  cases h with
  | absent hnone => exact hnone

/-- A refusal with a cost is one that says that the function is too complex. -/
theorem Refusal.overBudget {cost : List Char} (h : Refusal name reason (some cost)) :
    Refusal name (overBudget cost) (some cost) where
  name_run := h.name_run
  one_line := notMem_overBudget h.cost_run rfl (by decide) (by decide)
  front_stops := stops_cons rfl
  back_stops := by
    apply stops_reverse
    intro c hc
    obtain rfl := Option.some.inj ((getLast?_overBudget cost).symm.trans hc)
    decide
  cost_quoted := quotedCost_overBudget h.cost_run

/-- The line number of a reading does not matter for its verdict. -/
theorem verdict_eq_of_map {line : Option UInt32} {verdict other : Verdict} {found : UInt32}
    (h : some (found, verdict) = line.map (·, other)) : verdict = other := by
  obtain ⟨_, -, heq⟩ := Option.map_eq_some_iff.mp h.symm
  exact (Prod.mk.inj heq).2.symm

/-- What was read as a refusal can be printed as one. -/
theorem refusal_of_classify {line name reason : String} {cost : Option String} {found : UInt32}
    (h : classify line = some (found, .cannotInline name reason cost)) :
    Refusal name.toList reason.toList (cost.map String.toList) := by
  have hclassified := classified_classify line
  rw [h] at hclassified
  generalize hanswer : some (found, Verdict.cannotInline name reason cost) = answer at hclassified
  cases hclassified with
  | inlinable | inlinedCall => exact Verdict.noConfusion (verdict_eq_of_map hanswer)
  | unread => exact absurd hanswer (Option.some_ne_none _)
  | refused _ reading _ hgreedy digits hcost =>
      obtain ⟨rfl, rfl, rfl⟩ := Verdict.cannotInline.inj (verdict_eq_of_map hanswer)
      have hreason := trim_of_stops hgreedy.reason_stops
      have hcostback : (digits.map String.ofList).map String.toList = digits := by
        simp [Function.comp_def]
      rw [String.toList_ofList, String.toList_ofList, hcostback]
      refine ⟨reading.form.name_run, ?_, ?_, ?_, hcost⟩
      · intro hmem
        exact reading.form.reason_one_line ((List.rdropWhile_prefix isBlank _).subset hmem)
      · rw [← hreason]
        exact stops_trim _
      · rw [← hreason]
        exact stops_reverse_trim _

/-- What was read as an inlined call has a name without blanks. -/
theorem call_of_classify {line name : String} {found : UInt32}
    (h : classify line = some (found, .inlinedCall name)) : Run (!isBlank ·) name.toList := by
  have hclassified := classified_classify line
  rw [h] at hclassified
  generalize hanswer : some (found, Verdict.inlinedCall name) = answer at hclassified
  cases hclassified with
  | inlinable | refused => exact Verdict.noConfusion (verdict_eq_of_map hanswer)
  | unread => exact absurd hanswer (Option.some_ne_none _)
  | inlinedCall _ _ reading =>
      obtain rfl := Verdict.inlinedCall.inj (verdict_eq_of_map hanswer)
      rw [String.toList_ofList]
      exact reading.form.name_run

/-! ## Wordings as messages -/

theorem toList_describe_call (name : String) :
    ' ' :: (Verdict.inlinedCall name).describe.toList =
      " inlining call to ".toList ++ name.toList := by
  have hwording : (Verdict.inlinedCall name).describe = "inlining call to " ++ name := rfl
  rw [hwording, String.toList_append]
  rfl

theorem toList_describe_refusal (name reason : String) :
    ' ' :: (Verdict.cannotInline name reason none).describe.toList =
      " cannot inline ".toList ++ (name.toList ++ ':' :: ' ' :: reason.toList) := by
  have hwording : (Verdict.cannotInline name reason none).describe =
      "cannot inline " ++ name ++ ": " ++ reason := rfl
  simp only [hwording, String.toList_append, List.append_assoc]
  rfl

theorem toList_describe_overBudget (name reason cost : String) :
    ' ' :: (Verdict.cannotInline name reason (some cost)).describe.toList =
      " cannot inline ".toList ++ (name.toList ++ ':' :: ' ' :: overBudget cost.toList) := by
  have hwording : (Verdict.cannotInline name reason (some cost)).describe =
      "cannot inline " ++ name ++ ": function too complex: cost " ++ cost ++
        " exceeds budget 80" := rfl
  simp only [hwording, String.toList_append, List.append_assoc]
  rfl

/-! ## Wordings at a place -/

section Wording

variable {file column : String} (hfile : file ≠ "") (hcolon : ':' ∉ file.toList)
  (hnewline : '\n' ∉ file.toList) (number : UInt32) (hcolumn : column ≠ "")
  (hdigits : ∀ c ∈ column.toList, c.isDigit = true)

include hfile hcolon hnewline hcolumn hdigits

/-- A file without colons, a line number and a column of digits are a place. -/
theorem exists_place :
    ∃ place : Place, place.line = numeral number.toNat ∧ ∀ wording : String,
      file ++ ":" ++ decimal number.toNat ++ ":" ++ column ++ ": " ++ wording =
        String.ofList (place.text (' ' :: wording.toList)) := by
  have hrun : Run isDigit column.toList := by
    refine ⟨?_, fun c hc => isDigit_of_ascii (hdigits c hc)⟩
    intro hnil
    exact hcolumn (String.toList_inj.mp hnil)
  have hne : file.toList ≠ [] := by
    intro hnil
    exact hfile (String.toList_inj.mp hnil)
  refine ⟨⟨file.toList, numeral number.toNat, column.toList, hne, hcolon, hnewline,
    run_numeral _, hrun⟩, rfl, ?_⟩
  intro wording
  apply String.toList_inj.mp
  simp [Place.text, decimal]

/-- The wording of a refused function or an inlined call, at any place, is read as a verdict of that
kind on the same function, with the same cost and the same wording. If there is no cost, as there is
none for a call, the verdict is the same. -/
theorem reworded_read_back {line : String} {found : UInt32} {verdict : Verdict}
    (h : classify line = some (found, verdict)) (hkind : verdict.isInlinable = false) :
    ∃ again, classify (file ++ ":" ++ decimal number.toNat ++ ":" ++ column ++ ": " ++
        verdict.describe) = some (number, again) ∧
      again.isInlinable = false ∧ again.isInlinedCall = verdict.isInlinedCall ∧
      again.name = verdict.name ∧ again.cost? = verdict.cost? ∧
      again.describe = verdict.describe ∧ (verdict.cost? = none → again = verdict) := by
  obtain ⟨place, hline, hplace⟩ := exists_place hfile hcolon hnewline number hcolumn hdigits
  cases verdict with
  | canInline => exact absurd hkind.symm Bool.false_ne_true
  | inlinedCall name =>
      have hread := classify_call hline (call_of_classify h)
      refine ⟨.inlinedCall name, ?_, rfl, rfl, rfl, rfl, rfl, fun _ => rfl⟩
      rw [hplace, toList_describe_call, hread, String.ofList_toList]
  | cannotInline name reason cost =>
      have hrefusal := refusal_of_classify h
      cases cost with
      | none =>
          -- a reason without a cost is not the message of an inlinable function
          have hread := classify_refusal hline hrefusal fun _ => hrefusal.cost_quoted.isEmpty
          refine ⟨.cannotInline name reason none, ?_, rfl, rfl, rfl, rfl, rfl, fun _ => rfl⟩
          rw [hplace, toList_describe_refusal, hread, String.ofList_toList, String.ofList_toList]
          rfl
      | some cost =>
          -- the message of an inlinable function has a letter that the given reason has not
          have hquiet : 'a' ∉ overBudget cost.toList :=
            notMem_overBudget hrefusal.cost_run rfl (by decide) (by decide)
          have hread := classify_refusal hline hrefusal.overBudget fun hletter =>
            absurd hletter hquiet
          refine ⟨.cannotInline name (String.ofList (overBudget cost.toList)) (some cost), ?_, rfl, rfl,
            rfl, rfl, rfl, fun hnone => absurd hnone (Option.some_ne_none cost)⟩
          rw [hplace, toList_describe_overBudget, hread, String.ofList_toList, Option.map_some,
            String.ofList_toList]

end Wording

/-! ## A reason that looks like a diagnostic -/

/-- The name ends in a line and a column, and the reason is the message of an inlinable function. -/
def nestedLine : String := "./a.go:1:2: cannot inline x:3:4:can inline g with cost 5 as: z"

theorem reworded_read_back_nested :
    classify nestedLine =
        some (1, .cannotInline "x:3:4" "can inline g with cost 5 as: z" (some "5")) ∧
      ∃ again, classify
          "b c:7:012: cannot inline x:3:4: function too complex: cost 5 exceeds budget 80" =
          some (7, again) ∧ again.name = "x:3:4" ∧ again.cost? = some "5" ∧
        again.describe = "cannot inline x:3:4: function too complex: cost 5 exceeds budget 80" := by
  have hline : classify nestedLine =
      some (1, .cannotInline "x:3:4" "can inline g with cost 5 as: z" (some "5")) := by decide +kernel
  have hfile : "b c" ≠ "" := by decide
  have hcolon : ':' ∉ "b c".toList := by decide
  have hnewline : '\n' ∉ "b c".toList := by decide
  have hcolumn : "012" ≠ "" := by decide
  have hdigits : ∀ c ∈ "012".toList, c.isDigit = true := List.all_eq_true.mp rfl
  obtain ⟨again, hagain, -, -, hname, hcost, hwording, -⟩ :=
    reworded_read_back hfile hcolon hnewline 7 hcolumn hdigits hline rfl
  have htext : "b c" ++ ":" ++ decimal (7 : UInt32).toNat ++ ":" ++ "012" ++ ": " ++
      (Verdict.cannotInline "x:3:4" "can inline g with cost 5 as: z" (some "5")).describe =
        "b c:7:012: cannot inline x:3:4: function too complex: cost 5 exceeds budget 80" := by
    decide +kernel
  rw [htext] at hagain
  refine ⟨hline, again, hagain, hname, hcost, ?_⟩
  rw [hwording]
  decide +kernel

end SsaLens.Diagnostic
