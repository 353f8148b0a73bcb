import SsaLens.Proofs.Dump.Region

/-! # Dumps of several functions

The output of a build can hold the dumps of many functions. The one that is extracted is the first
whose symbol goes on from the wanted one, which need not be the wanted function.
-/

namespace SsaLens.Dump

open Text

/-- A dump in the output of a build. The ending follows the closing in the last line. -/
structure Printed where
  symbol : String
  file : String
  rows : List String
  ending : String
  deriving DecidableEq

namespace Printed

def text (printed : Printed) : String :=
  print printed.symbol printed.file printed.rows ++ printed.ending ++ "\n"

/-- The listing and the file of a printed dump. A carriage return before a newline is no part of a
row. -/
def dump (printed : Printed) : Dump :=
  ⟨printed.rows.map fun row => String.ofList (dropReturn row.toList), "/" ++ printed.file⟩

/-- The symbol and the file are words, and only the first line has an opening and only the last one
a closing. -/
structure WellFormed (printed : Printed) : Prop where
  symbol_word : Run (!isBlank ·) printed.symbol.toList
  file_word : Run (!isBlank ·) printed.file.toList
  rows_one_line : ∀ row ∈ printed.rows, '\n' ∉ row.toList
  rows_unopened : ∀ row ∈ printed.rows, ¬ opening <:+: row.toList
  rows_unclosed : ∀ row ∈ printed.rows, ¬ closing <:+: row.toList
  ending_one_line : '\n' ∉ printed.ending.toList
  ending_unopened : ¬ opening <:+: closing ++ printed.ending.toList
  ending_unclosed : ¬ closing <:+: printed.ending.toList

/-- The dump begins like the dump of a symbol. -/
def Opens (symbol : List Char) (printed : Printed) : Prop :=
  symbol <+: printed.symbol.toList ++ "\n# ".toList

instance (symbol : List Char) (printed : Printed) : Decidable (printed.Opens symbol) :=
  inferInstanceAs (Decidable (symbol <+: printed.symbol.toList ++ "\n# ".toList))

/-- A pattern with a blank does not occur in a text that has none. -/
theorem not_infix_of_word {pattern text : List Char} (hpattern : ' ' ∈ pattern)
    (htext : Run (!isBlank ·) text) : ¬ pattern <:+: text := by
  intro hwithin
  have := htext.forall_mem ' ' (hwithin.subset hpattern)
  exact absurd this (by decide)

variable {printed : Printed}

/-- A text behind its first character. -/
def tail (printed : Printed) : List Char :=
  written (("enssa ".toList ++ printed.symbol.toList) :: fileLine printed.file.toList ::
    (printed.rows.map String.toList ++ [closing ++ printed.ending.toList]))

theorem toList_text (printed : Printed) : printed.text.toList = 'g' :: printed.tail := by
  have hnewline : "\n".toList = ['\n'] := rfl
  simp only [text, tail, String.toList_append, toList_print, hnewline, printedLines, written_cons,
    written_append, written_nil, List.append_assoc, List.cons_append]
  rfl

namespace WellFormed

/-- After its first character a printed dump opens no region. -/
theorem tail_unopened (h : printed.WellFormed) : ¬ opening <:+: printed.tail := by
  have hstart : opening = 'g' :: "enssa ".toList := by decide
  rw [tail, infix_written_iff (by decide) (by decide)]
  rintro ⟨line, hline, hwithin⟩
  simp only [List.mem_cons, List.mem_append, List.mem_map, List.not_mem_nil, or_false] at hline
  rcases hline with rfl | rfl | ⟨row, hrow, rfl⟩ | rfl
  · rw [hstart, infix_append_iff_of_notMem (by decide), ← hstart] at hwithin
    exact not_infix_of_word (by decide) h.symbol_word hwithin
  · rw [hstart, fileLine, infix_append_iff_of_notMem (by decide), ← hstart] at hwithin
    exact not_infix_of_word (by decide) h.file_word hwithin
  · exact h.rows_unopened row hrow hwithin
  · exact h.ending_unopened hwithin

/-- No line of a well-formed printed dump has the closing marker. -/
theorem lines_unclosed (h : printed.WellFormed) :
    ∀ line ∈ printedLines printed.symbol printed.file printed.rows, ¬ closing <:+: line := by
  have hstart : closing = 'd' :: "umped SSA".toList := by decide
  refine List.forall_mem_cons.mpr ⟨?_, List.forall_mem_cons.mpr ⟨?_, ?_⟩⟩
  · rw [hstart, infix_append_iff_of_notMem (by decide), ← hstart]
    exact not_infix_of_word (by decide) h.symbol_word
  · rw [closing_infix_fileLine_iff]
    exact not_infix_of_word (by decide) h.file_word
  · exact List.forall_mem_map.mpr h.rows_unclosed

theorem lines_one_line (h : printed.WellFormed) :
    ∀ line ∈ printedLines printed.symbol printed.file printed.rows, '\n' ∉ line := by
  have hword : ∀ {text : List Char}, Run (!isBlank ·) text → '\n' ∉ text := fun hrun hmem =>
    absurd (hrun.forall_mem '\n' hmem) (by decide)
  refine List.forall_mem_cons.mpr ⟨?_, List.forall_mem_cons.mpr ⟨?_, ?_⟩⟩
  · rw [List.mem_append, not_or]
    exact ⟨by decide, hword h.symbol_word⟩
  · rw [fileLine, List.mem_append, not_or]
    exact ⟨by decide, hword h.file_word⟩
  · exact List.forall_mem_map.mpr h.rows_one_line

end WellFormed

/-- A marker that stands at the beginning of a dump goes no further than to the point in its second
line, because a symbol that has a newline has no point. -/
theorem marker_prefix_iff {symbol : List Char} (hsymbol : '\n' ∉ symbol ∨ '.' ∉ symbol)
    (rest : List Char) :
    opening ++ symbol <+: printed.text.toList ++ rest ↔ printed.Opens symbol := by
  obtain ⟨after, hafter⟩ : ∃ after, printed.text.toList ++ rest =
      opening ++ ((printed.symbol.toList ++ "\n# ".toList) ++ '.' :: after) := by
    rw [toList_text, tail, written_cons, written_cons]
    refine ⟨'/' :: (printed.file.toList ++ '\n' :: (written (printed.rows.map String.toList ++
      [closing ++ printed.ending.toList]) ++ rest)), ?_⟩
    simp only [fileLine, List.append_assoc, List.cons_append]
    rfl
  rw [hafter, List.prefix_append_right_inj, Opens]
  -- the newline or the point, whichever the symbol has not, is where the comparison ends
  rcases hsymbol with hnewline | hpoint
  · have hcut : printed.symbol.toList ++ "\n# ".toList =
        printed.symbol.toList ++ '\n' :: "# ".toList := rfl
    rw [hcut, List.append_assoc, List.cons_append, prefix_append_cons_iff hnewline,
      prefix_append_cons_iff hnewline]
  · rw [prefix_append_cons_iff hpoint]

/-- A search passes over a dump that does not begin like the one it is for. -/
theorem split?_text_append (h : printed.WellFormed) {symbol : List Char}
    (hsymbol : '\n' ∉ symbol ∨ '.' ∉ symbol) (hother : ¬ printed.Opens symbol)
    (rest : List Char) :
    split? (opening ++ symbol) (printed.text.toList ++ rest) =
      (split? (opening ++ symbol) rest).map fun found =>
        (printed.text.toList ++ found.1, found.2) := by
  -- the opening stands at the very beginning only, and the newline at the end parts the rest
  obtain ⟨inner, hinner⟩ : ∃ inner, printed.tail = inner ++ ['\n'] :=
    ⟨written (("enssa ".toList ++ printed.symbol.toList) :: fileLine printed.file.toList ::
      printed.rows.map String.toList) ++ (closing ++ printed.ending.toList), by simp [tail]⟩
  have hunopened : ¬ opening <:+: inner := fun hwithin =>
    h.tail_unopened (hinner ▸ hwithin.trans (List.prefix_append inner ['\n']).isInfix)
  have hhere := (marker_prefix_iff hsymbol rest).not.mpr hother
  rw [toList_text, hinner, List.cons_append, List.append_assoc, List.singleton_append] at hhere ⊢
  rw [split?_cons_of_not_begins hhere,
    split?_append_newline (List.prefix_append opening symbol) (by decide) hunopened, Option.map_map]
  simp [Function.comp_def]

section Search

variable {dumps : List Printed} (hwell : ∀ printed ∈ dumps, printed.WellFormed)
variable {symbol : List Char} (hsymbol : '\n' ∉ symbol ∨ '.' ∉ symbol)

include hwell hsymbol

/-- If no printed dump opens the symbol, the marker stands nowhere in the text of all of them. -/
theorem split?_eq_none (hnone : ∀ printed ∈ dumps, ¬ printed.Opens symbol) :
    split? (opening ++ symbol) (dumps.flatMap (·.text.toList)) = none := by
  induction dumps with
  | nil => rfl
  | cons printed dumps ih =>
      obtain ⟨hprinted, hdumps⟩ := List.forall_mem_cons.mp hwell
      obtain ⟨hother, hlater⟩ := List.forall_mem_cons.mp hnone
      rw [List.flatMap_cons, split?_text_append hprinted hsymbol hother, ih hdumps hlater]
      rfl

/-- The marker is found at the head of the first printed dump that opens the symbol. -/
theorem exists_split? {first : Printed} (hfirst : dumps.find? (Opens symbol ·) = some first) :
    ∃ front rest, split? (opening ++ symbol) (dumps.flatMap (·.text.toList)) =
      some (front, first.text.toList ++ rest) := by
  induction dumps with
  | nil => simp at hfirst
  | cons printed dumps ih =>
      obtain ⟨hprinted, hdumps⟩ := List.forall_mem_cons.mp hwell
      rw [List.flatMap_cons]
      by_cases hhere : printed.Opens symbol
      · obtain rfl : printed = first := by simpa [List.find?_cons, hhere] using hfirst
        exact ⟨[], _, split?_of_prefix ((marker_prefix_iff hsymbol _).mpr hhere)⟩
      · obtain ⟨front, rest, hsplit⟩ := ih hdumps (by simpa [List.find?_cons, hhere] using hfirst)
        rw [split?_text_append hprinted hsymbol hhere, hsplit]
        exact ⟨_, rest, rfl⟩

end Search

end Printed

open Printed

/-- Of the dumps in an output, the first that begins like the dump of the wanted symbol is extracted. -/
theorem extract_join_eq_find? {dumps : List Printed} (hwell : ∀ printed ∈ dumps, printed.WellFormed)
    (identifier : String) :
    extract (String.join (dumps.map text)) identifier =
      (dumps.find? (Opens (Symbol.bareChars identifier.toList) ·)).map dump := by
  have houtput : (String.join (dumps.map text)).toList = dumps.flatMap (·.text.toList) := by
    rw [String.toList_join, List.flatMap_map]
  have hsymbol := Symbol.bareChars_newline_or_point identifier.toList
  cases hfind : dumps.find? (Opens (Symbol.bareChars identifier.toList) ·) with
  | none =>
      have hnone : ∀ printed ∈ dumps, ¬ printed.Opens (Symbol.bareChars identifier.toList) := by
        simpa using hfind
      rw [extract, region?, houtput, split?_eq_none hwell hsymbol hnone]
      rfl
  | some first =>
      have hfirst := hwell first (List.mem_of_find?_eq_some hfind)
      obtain ⟨front, rest, hsplit⟩ := exists_split? hwell hsymbol hfind
      have htext : first.text.toList ++ rest =
          written (printedLines first.symbol first.file first.rows) ++
            (closing ++ (first.ending.toList ++ "\n".toList ++ rest)) := by
        simp only [text, String.toList_append, toList_print, List.append_assoc]
      rw [← houtput, htext] at hsplit
      have hword : ∀ c ∈ first.file.toList, isBlank c = false := fun c hc => by
        simpa using hfirst.file_word.forall_mem c hc
      exact extract_of_split? hsplit hfirst.lines_one_line hfirst.lines_unclosed
        (stops_of_forall_mem hword)
        (stops_of_forall_mem fun c hc => hword c (List.mem_reverse.mp hc))

/-- The dump of a function in an output, which has exactly its symbol. -/
def own (dumps : List Printed) (identifier : String) : Option Dump :=
  (dumps.find? (·.symbol = Symbol.bare identifier)).map dump

/-- The dump of an identifier opens what is searched for it. -/
theorem opens_of_symbol_eq {printed : Printed} {identifier : String}
    (h : printed.symbol = Symbol.bare identifier) :
    printed.Opens (Symbol.bareChars identifier.toList) := by
  rw [Opens, h, Symbol.bare, String.toList_ofList]
  exact List.prefix_append _ _

/-- If the first dump that opens the symbol is also one of it, it is the dump that is wanted. -/
theorem own_eq_of_find? {dumps : List Printed} {identifier : String} {first : Printed}
    (hfind : dumps.find? (Opens (Symbol.bareChars identifier.toList) ·) = some first)
    (hsymbol : first.symbol = Symbol.bare identifier) : own dumps identifier = some first.dump := by
  -- no earlier dump has the symbol either, because it would begin like this one
  obtain ⟨-, front, back, rfl, hfront⟩ := List.find?_eq_some_iff_append.mp hfind
  have hown : (front ++ first :: back).find? (·.symbol = Symbol.bare identifier) = some first := by
    refine List.find?_eq_some_iff_append.mpr ⟨by simpa using hsymbol, front, back, rfl, ?_⟩
    intro printed hprinted
    have hother := hfront printed hprinted
    simp only [Bool.not_eq_true', decide_eq_false_iff_not] at hother ⊢
    exact fun heq => hother (opens_of_symbol_eq heq)
  rw [own, hown, Option.map_some]

/-- What is extracted of an output with many dumps, and when it is the dump of the function itself:
exactly if the first dump that begins like it is its own, or shows the same. -/
theorem extract_join_eq_own_iff {dumps : List Printed}
    (hwell : ∀ printed ∈ dumps, printed.WellFormed) (identifier : String) :
    extract (String.join (dumps.map text)) identifier =
        (dumps.find? (Opens (Symbol.bareChars identifier.toList) ·)).map dump ∧
      (extract (String.join (dumps.map text)) identifier = own dumps identifier ↔
        ∀ first, dumps.find? (Opens (Symbol.bareChars identifier.toList) ·) = some first →
          first.symbol = Symbol.bare identifier ∨ own dumps identifier = some first.dump) := by
  have hextract := extract_join_eq_find? hwell identifier
  refine ⟨hextract, ?_⟩
  rw [hextract]
  constructor
  · intro heq first hfirst
    exact Or.inr (by rw [← heq, hfirst, Option.map_some])
  · intro h
    cases hfind : dumps.find? (Opens (Symbol.bareChars identifier.toList) ·) with
    | none =>
        have hnone : dumps.find? (·.symbol = Symbol.bare identifier) = none := by
          rw [List.find?_eq_none] at hfind ⊢
          intro printed hprinted heq
          exact hfind printed hprinted
            (decide_eq_true (opens_of_symbol_eq (of_decide_eq_true heq)))
        rw [own, hnone]
    | some first =>
        rcases h first hfind with hsymbol | hshown
        · rw [own_eq_of_find? hfind hsymbol, Option.map_some]
        · rw [hshown, Option.map_some]

/-- A build that dumps one function. -/
def sumPrinted : Printed := ⟨"Sum", "a.go", ["v1 (3) x"], " for Sum,1 to ./ssa.html"⟩

/-- A build that dumps another function. -/
def maxPrinted : Printed := ⟨"Max", "b.go", ["v2 (7) y", ""], ""⟩

theorem wellFormed_sumPrinted : sumPrinted.WellFormed := by
  constructor
  · exact ⟨by decide, List.all_eq_true.mp (by decide)⟩
  · exact ⟨by decide, List.all_eq_true.mp (by decide)⟩
  all_goals decide

theorem wellFormed_maxPrinted : maxPrinted.WellFormed := by
  constructor
  · exact ⟨by decide, List.all_eq_true.mp (by decide)⟩
  · exact ⟨by decide, List.all_eq_true.mp (by decide)⟩
  all_goals decide

theorem extract_join_sum_max :
    (∀ printed ∈ [sumPrinted, maxPrinted], printed.WellFormed) ∧
      extract (String.join ([sumPrinted, maxPrinted].map text)) "pkg.Max" =
        own [sumPrinted, maxPrinted] "pkg.Max" ∧
      own [sumPrinted, maxPrinted] "pkg.Max" = some ⟨["v2 (7) y", ""], "/b.go"⟩ := by
  have hwell : ∀ printed ∈ [sumPrinted, maxPrinted], printed.WellFormed := by
    simp [wellFormed_sumPrinted, wellFormed_maxPrinted]
  refine ⟨hwell, (extract_join_eq_own_iff hwell "pkg.Max").2.mpr fun first hfirst => ?_, by decide⟩
  have hmax : [sumPrinted, maxPrinted].find? (Opens (Symbol.bareChars "pkg.Max".toList) ·) =
      some maxPrinted := by decide
  obtain rfl : maxPrinted = first := Option.some.inj (hmax.symm.trans hfirst)
  exact Or.inl (by decide)

/-- The dump of a function whose symbol goes on is extracted for one that has none. -/
theorem extract_longer_symbol :
    sumPrinted.WellFormed ∧
      extract (String.join ([sumPrinted].map text)) "Su" = some sumPrinted.dump ∧
      own [sumPrinted] "Su" = none := by
  refine ⟨wellFormed_sumPrinted, ?_, by decide⟩
  rw [extract_join_eq_find? (by simp [wellFormed_sumPrinted])]
  decide

end SsaLens.Dump
