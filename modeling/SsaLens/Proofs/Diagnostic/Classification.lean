import SsaLens.Proofs.Diagnostic.Grammar

/-! # Classification follows the grammar

Each message reader finds the way to read a message that counts, and finds none only if there is
none. The search for the shortest file part lifts this to whole lines.
-/

namespace SsaLens.Diagnostic

open Text

theorem after?_append (pattern rest : List Char) : after? pattern (pattern ++ rest) = some rest :=
  after?_eq_some_iff.mpr rfl

/-! ## Messages -/

/-- A message of the first form is read as the grammar reads it. -/
theorem inlinable?_eq_some {message : List Char} (inlinable : Inlinable message) :
    inlinable? message = some (.canInline (String.ofList inlinable.name)
      (String.ofList inlinable.cost) (String.ofList inlinable.shape)) := by
  obtain ⟨gap, name, cost, shape, rfl, hgap, hname, hcost, hshape, hline⟩ := inlinable
  have hblank : Stops isBlank ("can inline ".toList ++ (name ++ (" with cost ".toList ++
    (cost ++ (" as: ".toList ++ shape))))) := stops_cons rfl
  have hspoken := dropWhile_append_of_stops hgap.forall_mem hblank
  have hword : Stops (!isBlank ·) (" with cost ".toList ++ (cost ++ (" as: ".toList ++ shape))) :=
    stops_cons rfl
  have hnumber : Stops isDigit (" as: ".toList ++ shape) := stops_cons rfl
  have hlength : 0 < gap.length := List.length_pos_iff.mpr hgap.ne_nil
  simp only [inlinable?, hspoken, after?_append, Option.bind_eq_bind, Option.bind_some,
    takeWhile_append_of_stops hname.forall_mem hword, dropWhile_append_of_stops hname.forall_mem hword,
    takeWhile_append_of_stops hcost.forall_mem hnumber,
    dropWhile_append_of_stops hcost.forall_mem hnumber]
  rw [if_pos ⟨by simp [hlength], hname.ne_nil, hcost.ne_nil, hshape, hline⟩]

/-- Only messages of the first form are read by it. -/
theorem nonempty_inlinable {message : List Char} {verdict : Verdict}
    (h : inlinable? message = some verdict) : Nonempty (Inlinable message) := by
  simp only [inlinable?, Option.bind_eq_bind, Option.bind_eq_some_iff, after?_eq_some_iff,
    Option.ite_none_right_eq_some] at h
  obtain ⟨subject, hspoken, costs, hcosts, shape, hshape, hif, -⟩ := h
  obtain ⟨hgap, hname, hcost, hne, hline⟩ := hif
  refine ⟨message.takeWhile isBlank, _, _, shape, ?_, run_takeWhile fun hnil => ?_,
    run_takeWhile hname, run_takeWhile hcost, hne, hline⟩
  · rw [← hshape, List.takeWhile_append_dropWhile, ← hcosts, List.takeWhile_append_dropWhile,
      ← hspoken, List.takeWhile_append_dropWhile]
  · have := congrArg List.length (List.takeWhile_append_dropWhile (p := isBlank) (l := message))
    rw [hnil, List.nil_append] at this
    omega

namespace Refused

variable {message : List Char}

/-- A reading whose name goes on over the colon that ended it, to a later one. -/
def overColon (refused : Refused message) {front back : List Char} (hgap : refused.gap = [])
    (hreason : refused.reason = front ++ ':' :: back) (hfront : ∀ c ∈ front, (!isBlank c) = true) :
    Refused message where
  name := refused.name ++ ':' :: front
  gap := []
  reason := back
  message_eq := by
    conv_lhs => rw [refused.message_eq, hgap, hreason]
    simp
  name_run := by
    refine ⟨by simp, fun c hc => ?_⟩
    rcases List.mem_append.mp hc with hname | hlater
    · exact refused.name_run.forall_mem c hname
    · rcases List.mem_cons.mp hlater with rfl | hlater
      · rfl
      · exact hfront c hlater
  gap_blank := by simp
  reason_one_line := fun hmem => refused.reason_one_line (by rw [hreason]; simp [hmem])

/-- A reading whose gap takes in a blank at the beginning of the reason. -/
def overBlank (refused : Refused message) {c : Char} {rest : List Char}
    (hreason : refused.reason = c :: rest) (hblank : isBlank c = true) : Refused message where
  name := refused.name
  gap := refused.gap ++ [c]
  reason := rest
  message_eq := by
    conv_lhs => rw [refused.message_eq, hreason]
    simp
  name_run := refused.name_run
  gap_blank := by
    intro other hother
    rcases List.mem_append.mp hother with hgap | hlast
    · exact refused.gap_blank other hgap
    · rw [List.mem_singleton.mp hlast]
      exact hblank
  reason_one_line := fun hmem => refused.reason_one_line (by simp [hreason, hmem])

/-- A further colon in the word would end a longer name. -/
theorem Greedy.colon_notMem {refused : Refused message} (h : refused.Greedy) :
    ':' ∉ (refused.gap ++ refused.reason).takeWhile (!isBlank ·) := by
  intro hcolon
  -- a blank would end the word before the colon
  have hgap : refused.gap = [] := by
    cases hcase : refused.gap with
    | nil => rfl
    | cons c rest =>
        have hblank := refused.gap_blank c (by simp [hcase])
        simp [hcase, hblank] at hcolon
  rw [hgap, List.nil_append] at hcolon
  obtain ⟨front, back, hword⟩ := List.append_of_mem hcolon
  have hreason : refused.reason = front ++ ':' :: (back ++ refused.reason.dropWhile (!isBlank ·)) := by
    conv_lhs => rw [← List.takeWhile_append_dropWhile (p := (!isBlank ·)) (l := refused.reason)]
    simp [hword]
  have hfront : ∀ c ∈ front, (!isBlank c) = true := fun c hc =>
    List.mem_takeWhile_imp (p := (!isBlank ·)) (l := refused.reason) (by simp [hword, hc])
  have hlength := (h (refused.overColon hgap hreason hfront)).1
  simp only [overColon, List.length_append, List.length_cons] at hlength
  omega

/-- A further blank would lengthen the gap. -/
theorem Greedy.reason_stops {refused : Refused message} (h : refused.Greedy) :
    Stops isBlank refused.reason := by
  intro c hc
  by_contra hblank
  obtain ⟨rest, hreason⟩ := List.head?_eq_some_iff.mp (Option.mem_def.mp hc)
  have hlength := (h (refused.overBlank hreason (by simpa using hblank))).2 rfl
  simp only [overBlank, List.length_append, List.length_singleton] at hlength
  omega

end Refused

/-- A name ends at a colon behind which no other comes before a blank. -/
theorem beforeLastColon?_append {name tail : List Char} (hname : Run (!isBlank ·) name)
    (htail : ':' ∉ tail.takeWhile (!isBlank ·)) :
    beforeLastColon? (name ++ ':' :: tail) = some (name, tail) := by
  have hword : (name ++ ':' :: tail).takeWhile (!isBlank ·) =
      name ++ ':' :: tail.takeWhile (!isBlank ·) := by
    rw [List.takeWhile_append_of_pos hname.forall_mem, List.takeWhile_cons_of_pos rfl]
  -- seen from the back, the first colon of the word is the one behind the name
  have hlast : (name ++ ':' :: tail.takeWhile (!isBlank ·)).reverse.takeWhile (· ≠ ':') =
      (tail.takeWhile (!isBlank ·)).reverse := by
    rw [List.reverse_append, List.reverse_cons, List.append_assoc]
    refine takeWhile_append_of_stops (fun c hc => ?_) (stops_cons (by simp))
    have hne : c ≠ ':' := fun heq => htail (heq ▸ List.mem_reverse.mp hc)
    simpa using hne
  have hname' : ((name ++ ':' :: tail.takeWhile (!isBlank ·)).reverse.drop
      ((tail.takeWhile (!isBlank ·)).reverse.length + 1)).reverse = name := by
    rw [List.reverse_append, List.reverse_cons, List.append_assoc, List.drop_length_add_append]
    simp
  simp only [beforeLastColon?, hword, hlast, hname', if_neg hname.ne_nil, List.drop_length_add_append,
    List.drop_one, List.tail_cons]

/-- A name is followed by its colon and holds no blank. -/
theorem eq_append_of_beforeLastColon? {text name tail : List Char}
    (h : beforeLastColon? text = some (name, tail)) :
    text = name ++ ':' :: tail ∧ Run (!isBlank ·) name := by
  simp only [beforeLastColon?, Option.ite_none_left_eq_some, Option.some.injEq, Prod.mk.injEq] at h
  obtain ⟨hne, hname, rfl⟩ := h
  rw [hname] at hne ⊢
  set word := text.takeWhile (!isBlank ·) with hword
  set last := word.reverse.takeWhile (· ≠ ':') with hlast
  have hsplit : last ++ word.reverse.dropWhile (· ≠ ':') = word.reverse :=
    List.takeWhile_append_dropWhile
  rw [← hsplit, List.drop_length_add_append] at hname
  cases hback : word.reverse.dropWhile (· ≠ ':') with
  | nil => exact absurd (by rw [← hname, hback]; rfl) hne
  | cons c back =>
      rw [hback] at hname hsplit
      -- behind the last part of the reversed word stands the colon that ends it
      have hcolon : c = ':' := by
        have := stops_dropWhile (· ≠ ':') word.reverse c (by rw [hback]; rfl)
        simpa using this
      subst hcolon
      have hreverse : name = back.reverse := by simpa using hname.symm
      have hwhole : word = name ++ ':' :: last.reverse := by
        have := congrArg List.reverse hsplit
        simpa [hreverse] using this.symm
      have htext : text = name ++ ':' :: (last.reverse ++ text.dropWhile (!isBlank ·)) := by
        conv_lhs => rw [← List.takeWhile_append_dropWhile (p := (!isBlank ·)) (l := text), ← hword,
          hwhole]
        simp
      refine ⟨?_, hne, fun c hc => ?_⟩
      · conv_rhs => rw [htext, List.drop_length_add_append]
        exact htext
      · have hmem : c ∈ text.takeWhile (!isBlank ·) := by
          rw [← hword, hwhole]
          exact List.mem_append_left _ hc
        exact List.mem_takeWhile_imp (p := (!isBlank ·)) hmem

/-- A message of the second form is read as the grammar reads it at its longest name and gap. -/
theorem refused?_eq_some {message : List Char} (refused : Refused message) (h : refused.Greedy) :
    refused? message = some (.cannotInline (String.ofList refused.name)
      (String.ofList (refused.reason.rdropWhile isBlank))
      ((quotedCost? (refused.reason.rdropWhile isBlank)).map String.ofList)) := by
  have hread := beforeLastColon?_append refused.name_run h.colon_notMem
  have hspoken := dropWhile_append_of_stops refused.gap_blank h.reason_stops
  conv_lhs => rw [refused.message_eq]
  simp only [refused?, after?_append, Option.bind_eq_bind, Option.bind_some, hread, hspoken]
  rw [if_pos refused.reason_one_line, trimEnd_eq_rdropWhile]

/-- Only messages of the second form are read by it. -/
theorem nonempty_refused {message : List Char} {verdict : Verdict}
    (h : refused? message = some verdict) : Nonempty (Refused message) := by
  simp only [refused?, Option.bind_eq_bind, Option.bind_eq_some_iff, after?_eq_some_iff,
    Option.ite_none_right_eq_some] at h
  obtain ⟨subject, hmessage, ⟨name, tail⟩, hread, hline, -⟩ := h
  obtain ⟨hsubject, hname⟩ := eq_append_of_beforeLastColon? hread
  refine ⟨name, tail.takeWhile isBlank, tail.dropWhile isBlank, ?_, hname,
    fun _ hc => List.mem_takeWhile_imp hc, hline⟩
  rw [List.takeWhile_append_dropWhile, ← hsubject, hmessage]

/-- A message of the third form is read as the grammar reads it. -/
theorem inlinedCall?_eq_some {message : List Char} (call : InlinedCall message) :
    inlinedCall? message = some (.inlinedCall (String.ofList call.name)) := by
  conv_lhs => rw [call.message_eq]
  simp only [inlinedCall?, after?_append, Option.bind_eq_bind, Option.bind_some]
  rw [if_pos ⟨call.name_run.ne_nil, List.all_eq_true.mpr call.name_run.forall_mem⟩]

/-- Only messages of the third form are read by it. -/
theorem nonempty_inlinedCall {message : List Char} {verdict : Verdict}
    (h : inlinedCall? message = some verdict) : Nonempty (InlinedCall message) := by
  simp only [inlinedCall?, Option.bind_eq_bind, Option.bind_eq_some_iff, after?_eq_some_iff,
    Option.ite_none_right_eq_some] at h
  obtain ⟨name, hmessage, ⟨hne, hall⟩, -⟩ := h
  exact ⟨name, hmessage, hne, List.all_eq_true.mp hall⟩

/-! ## Quoted costs -/

/-- A cost that is mentioned here is the one that is quoted. -/
theorem quotedCost?_cons_of_mention {c : Char} {rest : List Char} (mention : CostMention (c :: rest))
    (hbefore : mention.before = []) : quotedCost? (c :: rest) = some mention.digits := by
  have hafter : after? "cost ".toList (c :: rest) = some (mention.digits ++ mention.after) :=
    after?_eq_some_iff.mpr (mention.reason_eq.trans (by rw [hbefore, List.nil_append]))
  have hdigits := takeWhile_append_of_stops mention.digits_run.forall_mem mention.after_stops
  rw [quotedCost?, hafter]
  simp [hdigits, mention.digits_run.ne_nil]

/-- Where no cost is mentioned, the search goes on behind the character. -/
theorem quotedCost?_cons_of_no_mention {c : Char} {rest : List Char}
    (h : ∀ mention : CostMention (c :: rest), mention.before ≠ []) :
    quotedCost? (c :: rest) = quotedCost? rest := by
  rw [quotedCost?]
  split
  next tail hafter =>
    split
    next => rfl
    next hdigits =>
      refine absurd rfl (h ⟨[], tail.takeWhile isDigit, tail.dropWhile isDigit, ?_,
        run_takeWhile (by simpa using hdigits), stops_dropWhile isDigit tail⟩)
      rw [List.takeWhile_append_dropWhile, List.nil_append, after?_eq_some_iff.mp hafter]
  next => rfl

/-- The cost that is found is the first one that is mentioned. -/
theorem quotedCost_quotedCost? (reason : List Char) : QuotedCost reason (quotedCost? reason) := by
  induction reason with
  | nil => exact .absent ⟨fun mention => by simpa using mention.reason_eq⟩
  | cons c rest ih =>
      by_cases hhere : ∃ mention : CostMention (c :: rest), mention.before = []
      · obtain ⟨mention, hbefore⟩ := hhere
        rw [quotedCost?_cons_of_mention mention hbefore]
        exact .mentioned mention fun other => by simp [hbefore]
      · have hbefore : ∀ mention : CostMention (c :: rest), mention.before ≠ [] :=
          fun mention hnil => hhere ⟨mention, hnil⟩
        -- a mention further on is one of the rest
        have hrest : ∀ mention : CostMention (c :: rest), ∃ later : CostMention rest,
            mention.before.length = later.before.length + 1 := by
          intro mention
          obtain ⟨d, front, hfront⟩ := List.exists_cons_of_ne_nil (hbefore mention)
          have heq := mention.reason_eq
          rw [hfront, List.cons_append, List.cons.injEq] at heq
          exact ⟨⟨front, mention.digits, mention.after, heq.2, mention.digits_run,
            mention.after_stops⟩, by simp [hfront]⟩
        rw [quotedCost?_cons_of_no_mention hbefore]
        generalize quotedCost? rest = cost at ih
        cases ih with
        | mentioned mention hleftmost =>
            refine .mentioned ⟨c :: mention.before, mention.digits, mention.after,
              congrArg (c :: ·) mention.reason_eq, mention.digits_run, mention.after_stops⟩ ?_
            intro other
            obtain ⟨later, hlength⟩ := hrest other
            have := hleftmost later
            simp only [List.length_cons]
            omega
        | absent hnone => exact .absent ⟨fun mention => hnone.elim (hrest mention).choose⟩

/-- A reason quotes one cost at most. -/
theorem QuotedCost.unique {reason : List Char} {first second : Option (List Char)}
    (hfirst : QuotedCost reason first) (hsecond : QuotedCost reason second) : first = second := by
  cases hfirst with
  | absent hnone =>
      cases hsecond with
      | absent _ => rfl
      | mentioned mention _ => exact hnone.elim mention
  | mentioned mention hleftmost =>
      cases hsecond with
      | absent hnone => exact hnone.elim mention
      | mentioned other hother =>
          have hlength := Nat.le_antisymm (hleftmost other) (hother mention)
          have hrest := (List.append_inj (mention.reason_eq.symm.trans other.reason_eq) hlength).2
          have hdigits := append_inj_of_stops mention.digits_run.forall_mem
            other.digits_run.forall_mem mention.after_stops other.after_stops
            (List.append_cancel_left hrest)
          rw [hdigits.1]

/-! ## Lines -/

/-- A position is a line and a column, each a run of digits with a colon behind it. -/
theorem position?_eq_some_iff {text line message : List Char} :
    position? text = some (line, message) ↔
      ∃ column, text = line ++ ':' :: (column ++ ':' :: message) ∧ Run isDigit line ∧
        Run isDigit column := by
  constructor
  · intro h
    simp only [position?, Option.bind_eq_bind, Option.bind_eq_some_iff, after?_eq_some_iff,
      Option.ite_none_right_eq_some, Option.some.injEq, Prod.mk.injEq] at h
    obtain ⟨columns, hcolumns, message', hmessage, ⟨hline, hcolumn⟩, rfl, rfl⟩ := h
    refine ⟨columns.takeWhile isDigit, ?_, run_takeWhile hline, run_takeWhile hcolumn⟩
    conv_lhs => rw [← List.takeWhile_append_dropWhile (p := isDigit) (l := text), hcolumns,
      ← List.takeWhile_append_dropWhile (p := isDigit) (l := columns), hmessage]
    rfl
  · rintro ⟨column, rfl, hline, hcolumn⟩
    have hlinestop : Stops isDigit (':' :: (column ++ ':' :: message)) := stops_cons rfl
    have hcolumnstop : Stops isDigit (':' :: message) := stops_cons rfl
    simp only [position?, Option.bind_eq_bind, takeWhile_append_of_stops hline.forall_mem hlinestop,
      dropWhile_append_of_stops hline.forall_mem hlinestop]
    rw [after?_eq_some_iff.mpr (List.singleton_append).symm, Option.bind_some,
      dropWhile_append_of_stops hcolumn.forall_mem hcolumnstop,
      after?_eq_some_iff.mpr (List.singleton_append).symm, Option.bind_some,
      takeWhile_append_of_stops hcolumn.forall_mem hcolumnstop,
      if_pos ⟨hline.ne_nil, hcolumn.ne_nil⟩]

/-- What stands at a place of a line: a position and a message that the reader of a form reads. -/
def placed? (form : List Char → Option Verdict) (text : List Char) :
    Option (List Char × Verdict) := do
  let (line, message) ← (after? [':'] text).bind position?
  let verdict ← form message
  pure (line, verdict)

theorem located?_cons (form : List Char → Option Verdict) (c : Char) (rest : List Char) :
    located? form (c :: rest) =
      if c = '\n' then none else placed? form rest <|> located? form rest := rfl

/-- A form is placed behind a colon and a position. -/
theorem placed?_eq_some_iff {form : List Char → Option Verdict} {text line : List Char}
    {verdict : Verdict} :
    placed? form text = some (line, verdict) ↔
      ∃ column message, text = ':' :: (line ++ ':' :: (column ++ ':' :: message)) ∧
        Run isDigit line ∧ Run isDigit column ∧ form message = some verdict := by
  simp only [placed?, Option.bind_eq_bind, Option.bind_eq_some_iff, after?_eq_some_iff,
    List.singleton_append, Prod.exists, position?_eq_some_iff, Option.pure_def, Option.some.injEq,
    Prod.mk.injEq]
  constructor
  · rintro ⟨line', message, ⟨tail, rfl, column, rfl, hline, hcolumn⟩, verdict', hform, rfl, rfl⟩
    exact ⟨column, message, rfl, hline, hcolumn, hform⟩
  · rintro ⟨column, message, rfl, hline, hcolumn, hform⟩
    exact ⟨line, message, ⟨_, rfl, column, rfl, hline, hcolumn⟩, verdict, hform, rfl, rfl⟩

/-- The search stops at the first place that it can read. -/
theorem located?_append {form : List Char → Option Verdict} {file rest : List Char}
    {found : List Char × Verdict} (hne : file ≠ []) (hline : '\n' ∉ file)
    (hhere : placed? form rest = some found)
    (hfirst : ∀ front back, file = front ++ back → front ≠ [] → back ≠ [] →
      placed? form (back ++ rest) = none) :
    located? form (file ++ rest) = some found := by
  induction file with
  | nil => exact absurd rfl hne
  | cons c tail ih =>
      obtain ⟨hc, htail⟩ := not_or.mp (fun hmem => hline (List.mem_cons.mpr hmem))
      rw [List.cons_append, located?_cons, if_neg (Ne.symm hc)]
      by_cases hnil : tail = []
      · rw [hnil, List.nil_append, hhere]
        rfl
      · rw [hfirst [c] tail rfl (List.cons_ne_nil c []) hnil]
        refine ih hnil htail fun front back heq _ hback => ?_
        exact hfirst (c :: front) back (by rw [heq]; rfl) (List.cons_ne_nil c front) hback

/-- What the search finds stands behind a file part. -/
theorem exists_file_of_located? {form : List Char → Option Verdict} {text : List Char}
    {found : List Char × Verdict} (h : located? form text = some found) :
    ∃ file rest, text = file ++ rest ∧ file ≠ [] ∧ '\n' ∉ file ∧
      placed? form rest = some found := by
  induction text with
  | nil => simp [located?] at h
  | cons c tail ih =>
      rw [located?_cons, Option.ite_none_left_eq_some, Option.orElse_eq_orElse,
        Option.orElse_eq_or, Option.or_eq_some_iff] at h
      obtain ⟨hc, hhere | ⟨-, hlater⟩⟩ := h
      · exact ⟨[c], tail, rfl, List.cons_ne_nil c [], by simpa using Ne.symm hc, hhere⟩
      · obtain ⟨file, rest, rfl, -, hline, hfound⟩ := ih hlater
        exact ⟨c :: file, rest, rfl, List.cons_ne_nil c file,
          by simpa using ⟨Ne.symm hc, hline⟩, hfound⟩

section Search

variable {form : List Char → Option Verdict} {Form : List Char → Type} {text : List Char}
variable (hsound : ∀ {message verdict}, form message = some verdict → Nonempty (Form message))

include hsound

/-- Where a form is placed, the grammar has a reading with what is in front as its file part. -/
theorem exists_reading {file rest : List Char} {found : List Char × Verdict}
    (htext : text = file ++ rest) (hne : file ≠ []) (hline : '\n' ∉ file)
    (h : placed? form rest = some found) :
    ∃ reading : Reading Form text, reading.file = file := by
  obtain ⟨column, message, rfl, hdigits, hcolumn, hform⟩ := placed?_eq_some_iff.mp h
  obtain ⟨content⟩ := hsound hform
  exact ⟨⟨file, found.1, column, message, content, htext, hne, hline, hdigits, hcolumn⟩, rfl⟩

/-- A form is found nowhere in a text that it has no reading of. -/
theorem located?_eq_none (hnone : IsEmpty (Reading Form text)) : located? form text = none := by
  by_contra hsome
  obtain ⟨found, hfound⟩ := Option.ne_none_iff_exists'.mp hsome
  obtain ⟨file, rest, htext, hne, hline, hplaced⟩ := exists_file_of_located? hfound
  exact hnone.elim (exists_reading hsound htext hne hline hplaced).choose

/-- What is read earlier would be a reading with a shorter file part. -/
theorem placed?_eq_none_of_shortest {reading : Reading Form text} (hshortest : reading.Shortest)
    {front back : List Char} (hfile : reading.file = front ++ back) (hfront : front ≠ [])
    (hback : back ≠ []) :
    placed? form (back ++ ':' :: (reading.line ++ ':' :: (reading.column ++ ':' ::
      reading.message))) = none := by
  by_contra hsome
  obtain ⟨found, hfound⟩ := Option.ne_none_iff_exists'.mp hsome
  have hline : '\n' ∉ front := fun hmem => reading.file_one_line (by rw [hfile]; simp [hmem])
  have htext : text = front ++ (back ++ ':' :: (reading.line ++ ':' ::
      (reading.column ++ ':' :: reading.message))) := by
    rw [← List.append_assoc, ← hfile]
    exact reading.text_eq
  obtain ⟨shorter, hshorter⟩ := exists_reading hsound htext hfront hline hfound
  have hlength := hshortest shorter
  rw [hshorter, hfile, List.length_append] at hlength
  have hpos := List.length_pos_iff.mpr hback
  omega

/-- A form is found at its reading with the shortest file part. -/
theorem located?_eq_some {reading : Reading Form text} (hshortest : reading.Shortest)
    {verdict : Verdict} (hform : form reading.message = some verdict) :
    located? form text = some (reading.line, verdict) := by
  have hhere := placed?_eq_some_iff.mpr
    ⟨reading.column, reading.message, rfl, reading.line_run, reading.column_run, hform⟩
  conv_lhs => rw [reading.text_eq]
  exact located?_append reading.file_ne_nil reading.file_one_line hhere fun _ _ hfile hfront hback =>
    placed?_eq_none_of_shortest hsound hshortest hfile hfront hback

end Search

/-! ## The answer -/

/-- The grammar answers for every text. -/
theorem exists_classified (text : List Char) : ∃ answer, Classified text answer := by
  by_cases hinlinable : Nonempty (Reading Inlinable text)
  · obtain ⟨reading, hshortest⟩ := exists_shortest hinlinable
    exact ⟨_, .inlinable reading hshortest⟩
  rw [not_nonempty_iff] at hinlinable
  by_cases hrefused : Nonempty (Reading Refused text)
  · obtain ⟨shortest, hshortest⟩ := exists_shortest hrefused
    obtain ⟨refused, hgreedy⟩ := Refused.exists_greedy ⟨shortest.form⟩
    obtain ⟨cost, hcost⟩ := exists_quotedCost (refused.reason.rdropWhile isBlank)
    exact ⟨_, .refused hinlinable { shortest with form := refused } hshortest hgreedy cost hcost⟩
  rw [not_nonempty_iff] at hrefused
  by_cases hcall : Nonempty (Reading InlinedCall text)
  · obtain ⟨reading, hshortest⟩ := exists_shortest hcall
    exact ⟨_, .inlinedCall hinlinable hrefused reading hshortest⟩
  · exact ⟨none, .unread hinlinable hrefused (not_nonempty_iff.mp hcall)⟩

/-- The first form that is found decides, with its line number. -/
theorem classify_eq_of_located? {text line : List Char} {verdict : Verdict} (hrun : line ≠ [])
    (h : (located? inlinable? text <|> located? refused? text <|> located? inlinedCall? text) =
      some (line, verdict)) :
    classify (String.ofList text) = (lineNumber? line).map (·, verdict) := by
  simp only [classify, String.toList_ofList, h, Option.bind_eq_bind, Option.bind_some,
    readLine?_eq_lineNumber? hrun]
  exact Option.map_eq_bind.symm

/-- What the grammar answers is the answer to a line. -/
theorem classify_of_classified {text : List Char} {answer : Option (UInt32 × Verdict)}
    (h : Classified text answer) : classify (String.ofList text) = answer := by
  cases h with
  | inlinable reading hshortest =>
      refine classify_eq_of_located? reading.line_run.ne_nil ?_
      rw [located?_eq_some nonempty_inlinable hshortest (inlinable?_eq_some reading.form)]
      rfl
  | refused hinlinable reading hshortest hgreedy cost hcost =>
      refine classify_eq_of_located? reading.line_run.ne_nil ?_
      rw [located?_eq_none nonempty_inlinable hinlinable,
        located?_eq_some nonempty_refused hshortest (refused?_eq_some reading.form hgreedy),
        (quotedCost_quotedCost? _).unique hcost]
      rfl
  | inlinedCall hinlinable hrefused reading hshortest =>
      refine classify_eq_of_located? reading.line_run.ne_nil ?_
      rw [located?_eq_none nonempty_inlinable hinlinable,
        located?_eq_none nonempty_refused hrefused,
        located?_eq_some nonempty_inlinedCall hshortest (inlinedCall?_eq_some reading.form)]
      rfl
  | unread hinlinable hrefused hcall =>
      simp only [classify, String.toList_ofList, located?_eq_none nonempty_inlinable hinlinable,
        located?_eq_none nonempty_refused hrefused, located?_eq_none nonempty_inlinedCall hcall]
      rfl

/-- The answer to a line is one that the grammar gives. -/
theorem classified_classify (line : String) : Classified line.toList (classify line) := by
  obtain ⟨found, hfound⟩ := exists_classified line.toList
  have heq := classify_of_classified hfound
  rw [String.ofList_toList] at heq
  rwa [heq]

/-- Classification is exactly what the grammar says, of every line. -/
theorem classify_eq_iff_classified (line : String) (answer : Option (UInt32 × Verdict)) :
    classify line = answer ↔ Classified line.toList answer := by
  constructor
  · rintro rfl
    exact classified_classify line
  · intro hanswer
    rw [← String.ofList_toList (s := line)]
    exact classify_of_classified hanswer

end SsaLens.Diagnostic
