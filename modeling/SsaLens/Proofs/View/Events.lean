import SsaLens.View

/-! # Views after events

What a view shows after any events is decided by the last ones of its file: the listing by the last
that brought one, the mark by the last of all. Events of other files could as well not have come.
-/

namespace SsaLens

namespace ViewEvent

/-- The line that is marked after an event. -/
def line? : ViewEvent → Option UInt32
  | highlight line _ => some line
  | replace _ _ line _ => line

/-- The listing and the report that an event brings. -/
def content? : ViewEvent → Option (List String × Report)
  | highlight .. => none
  | replace rows report _ _ => some (rows, report)

end ViewEvent

namespace View

theorem names_apply (view : View) (event : ViewEvent) :
    (view.apply event).function = view.function ∧ (view.apply event).fileName = view.fileName := by
  unfold apply
  split
  · cases event <;> exact ⟨rfl, rfl⟩
  · exact ⟨rfl, rfl⟩

theorem concerns_apply (view : View) (event : ViewEvent) :
    (view.apply event).concerns event = view.concerns event := by
  rw [concerns, (view.names_apply event).2, concerns]

theorem apply_of_not_concerns {view : View} {event : ViewEvent} (h : ¬ view.concerns event) :
    view.apply event = view := by
  rw [apply.eq_def, if_neg h]

/-- Follow events one after the other. -/
def applyAll (view : View) (events : List ViewEvent) : View := events.foldl apply view

/-- Whether a view follows them, for events one after the other. -/
def answers : View → List ViewEvent → List Bool
  | _, [] => []
  | view, event :: rest => view.concerns event :: answers (view.apply event) rest

/-- The view that shows a listing, annotated with a report, with a marked line. -/
def showing (function fileName : String) (content : List String × Report) (mark : Option UInt32) :
    View :=
  ⟨function, fileName, content.1, content.2, Row.annotate content.1 content.2, mark⟩

section Showing

variable (function fileName : String) (content : List String × Report) (mark : Option UInt32)

theorem apply_showing {event : ViewEvent} (h : event.fileName = fileName) :
    (showing function fileName content mark).apply event =
      showing function fileName (event.content?.getD content) event.line? := by
  have hconcerns : (showing function fileName content mark).concerns event = true := by
    rw [concerns, h]
    exact beq_self_eq_true fileName
  rw [apply.eq_def, if_pos hconcerns]
  cases event <;> rfl

theorem apply_showing_of_ne {event : ViewEvent} (h : event.fileName ≠ fileName) :
    (showing function fileName content mark).apply event =
      showing function fileName content mark := by
  have hconcerns : ¬ (showing function fileName content mark).concerns event = true := by
    simpa [concerns, showing] using h
  exact apply_of_not_concerns hconcerns

/-- The last event that brings a listing decides what is shown, and the last of all what is marked. -/
theorem applyAll_showing (events : List ViewEvent) :
    let own := events.filter (·.fileName == fileName)
    (showing function fileName content mark).applyAll events =
      showing function fileName ((own.filterMap ViewEvent.content?).getLast?.getD content)
        ((own.getLast?.map ViewEvent.line?).getD mark) := by
  induction events generalizing content mark with
  | nil => rfl
  | cons event rest ih =>
      by_cases hown : event.fileName = fileName
      · have hfilter : (event :: rest).filter (·.fileName == fileName) =
            event :: rest.filter (·.fileName == fileName) :=
          List.filter_cons_of_pos (by simpa using hown)
        rw [applyAll, List.foldl_cons, apply_showing function fileName content mark hown]
        refine (ih _ _).trans ?_
        rw [hfilter, List.getLast?_cons, Option.map_some, Option.getD_some, ← Option.getD_map ViewEvent.line?]
        cases event with
        | highlight line other => rfl
        | replace rows report line other =>
            have hcontent : (ViewEvent.replace rows report line other).content? = some (rows, report) :=
              rfl
            rw [List.filterMap_cons_some hcontent, List.getLast?_cons, hcontent]
            rfl
      · have hfilter : (event :: rest).filter (·.fileName == fileName) =
            rest.filter (·.fileName == fileName) :=
          List.filter_cons_of_neg (by simpa using hown)
        rw [applyAll, List.foldl_cons, apply_showing_of_ne function fileName content mark hown]
        refine (ih _ _).trans ?_
        rw [hfilter]

end Showing

/-- An event is answered with whether it is about the file of the view. -/
theorem answers_eq_map (view : View) (events : List ViewEvent) :
    view.answers events = events.map (·.fileName == view.fileName) := by
  induction events generalizing view with
  | nil => rfl
  | cons event rest ih =>
      rw [answers, ih, (view.names_apply event).2, List.map_cons, concerns]

theorem highlightedRows_ascending (view : View) : view.highlightedRows.Pairwise (· < ·) := by
  have hpositions : (view.rows.zipIdx.map (·.2)).Pairwise (· < ·) := by
    rw [List.zipIdx_map_snd]
    exact List.pairwise_lt_range' 1
  exact hpositions.sublist (List.filter_sublist.map _)

/-- A row is highlighted if it is of the dump and mentions the line that is. -/
theorem mem_highlightedRows_iff (view : View) (position : Nat) :
    position ∈ view.highlightedRows ↔ ∃ index source text line,
      view.rows[position]? = some (.ssa index source text) ∧ view.highlight = some line ∧
        Row.mentions text line = true := by
  simp only [highlightedRows, List.mem_map, List.mem_filter, Prod.exists, exists_eq_right,
    List.mk_mem_zipIdx_iff_getElem?]
  constructor
  · rintro ⟨row, hrow, hmark⟩
    cases row with
    | verdict line text => exact absurd hmark Bool.false_ne_true
    | ssa index source text =>
        obtain ⟨line, hline, hmentions⟩ := (Option.any_eq_true _ _).mp hmark
        exact ⟨index, source, text, line, hrow, hline, hmentions⟩
  · rintro ⟨index, source, text, line, hrow, hline, hmentions⟩
    exact ⟨_, hrow, (Option.any_eq_true _ _).mpr ⟨line, hline, hmentions⟩⟩

/-- What a new view shows after events is the listing that came last for its file, annotated with its
report, and marked by the last event of the file; the marked rows are rows of the dump. -/
theorem applyAll_ofDump (function : String) (dump : Dump) (report : Report)
    (events : List ViewEvent) :
    let first := ofDump function dump report
    let own := events.filter (·.fileName == dump.fileName)
    let view := first.applyAll events
    (view.function = function ∧ view.fileName = dump.fileName) ∧
      view.rows = Row.annotate view.dump view.report ∧
      (view.dump, view.report) =
        (own.filterMap ViewEvent.content?).getLast?.getD (dump.rows, report) ∧
      view.highlight = own.getLast?.bind ViewEvent.line? ∧
      first.answers events = events.map (·.fileName == dump.fileName) ∧
      first.applyAll own = view ∧
      view.highlightedRows.Pairwise (· < ·) ∧
      ∀ position, position ∈ view.highlightedRows ↔ ∃ index source text line,
        view.rows[position]? = some (.ssa index source text) ∧ view.highlight = some line ∧
          Row.mentions text line = true := by
  intro first own view
  have hview : view = showing function dump.fileName
      ((own.filterMap ViewEvent.content?).getLast?.getD (dump.rows, report))
      ((own.getLast?.map ViewEvent.line?).getD none) :=
    applyAll_showing function dump.fileName (dump.rows, report) none events
  -- the events of the file are the same ones again
  have hown : first.applyAll own = view := by
    rw [hview]
    refine (applyAll_showing function dump.fileName (dump.rows, report) none own).trans ?_
    rw [List.filter_filter]
    simp only [Bool.and_self]
    rfl
  have hmark : view.highlight = own.getLast?.bind ViewEvent.line? := by
    rw [hview]
    cases own.getLast? <;> rfl
  refine ⟨?_, ?_, ?_, hmark, answers_eq_map first events, hown, view.highlightedRows_ascending,
    view.mem_highlightedRows_iff⟩
  · rw [hview]
    exact ⟨rfl, rfl⟩
  · rw [hview]
    rfl
  · rw [hview]
    rfl

end View

end SsaLens
