import SsaLens.Proofs.Server.History

/-! # The newest text of a document

A document is held from the message that opens it until the one that closes it. Meanwhile its version
is the greatest that was told, and its text is that of the last change that was not older than what was
held when it came. Messages about other documents do not matter.
-/

namespace SsaLens

/-- What happens to a document. -/
inductive DocumentStep where
  | opened (document : Document)
  | changed (version : Int) (texts : List String)
  | closed
  deriving DecidableEq

def DocumentStep.isChange : DocumentStep → Bool
  | changed .. => true
  | opened _ | closed => false

namespace Message

/-- The document that a message changes, by its URL. -/
def changed? : Message → Option String
  | .changed url _ _ => some url.text
  | _ => none

/-- The document that a message opens, changes or closes, by its URL. -/
def document? : Message → Option String
  | .opened url _ _ | .changed url _ _ | .closed url => some url.text
  | _ => none

/-- What a message does to the document of a URL. -/
def step? (url : String) : Message → Option DocumentStep
  | .opened other version text => if other.text = url then some (.opened ⟨version, text⟩) else none
  | .changed other version texts => if other.text = url then some (.changed version texts) else none
  | .closed other => if other.text = url then some .closed else none
  | _ => none

/-- The document was opened and not closed since: of its openings and closings, the last is an
opening. -/
def IsOpen (url : String) (messages : List Message) : Prop :=
  ∃ last ∈ ((messages.filterMap (step? url)).filter (!·.isChange)).getLast?, last ≠ .closed

instance (url : String) (messages : List Message) : Decidable (IsOpen url messages) :=
  inferInstanceAs (Decidable (∃ last ∈ List.getLast? _, last ≠ DocumentStep.closed))

/-- The document was opened or changed, and not closed since. -/
def IsHeld (url : String) (messages : List Message) : Prop :=
  ∃ last ∈ (messages.filterMap (step? url)).getLast?, last ≠ .closed

instance (url : String) (messages : List Message) : Decidable (IsHeld url messages) :=
  inferInstanceAs (Decidable (∃ last ∈ List.getLast? _, last ≠ DocumentStep.closed))

/-- Only documents are changed that are open at that time. -/
def ChangesOpen (messages : List Message) : Prop :=
  ∀ n < messages.length, ∀ url ∈ messages[n]?.bind changed?, IsOpen url (messages.take n)

instance (messages : List Message) : Decidable (ChangesOpen messages) :=
  inferInstanceAs (Decidable (∀ n < messages.length, ∀ url ∈ messages[n]?.bind changed?,
    IsOpen url (messages.take n)))

variable {url : String} {message : Message} {messages : List Message}

theorem step?_of_document?_ne (h : message.document? ≠ some url) : message.step? url = none := by
  cases message with
  | opened other | changed other | closed other => exact if_neg fun heq => h (congrArg some heq)
  | _ => rfl

/-- A message about a document brings no configuration. -/
theorem unconfigured_of_document? (h : message.document? = some url) (around : Surroundings) :
    message.configuration? around = none := by
  cases message with
  | ready | settingsChanged => exact absurd h (Option.some_ne_none url).symm
  | _ => rfl

/-- A step that changes a document is one of a message that does. -/
theorem changed?_of_step? {version : Int} {texts : List String}
    (h : message.step? url = some (.changed version texts)) : message.changed? = some url := by
  cases message with
  | changed other => exact congrArg some (Option.ite_none_right_eq_some.mp h).1
  | opened other | closed other =>
      have hstep := (Option.ite_none_right_eq_some.mp h).2
      simp at hstep
  | _ => simp [step?] at h

/-- An edit does what the step of the message says, and nothing where there is none. -/
theorem edit_eq (url : String) (message : Message) (held : Option Document) :
    message.edit url held =
      match message.step? url with
      | none => held
      | some (.opened document) => some document
      | some (.changed version texts) =>
          let before := held.getD ⟨0, ""⟩
          some (if version < before.version then before
            else ⟨version, texts.getLast?.getD before.text⟩)
      | some .closed => none := by
  cases message with
  | opened other | changed other | closed other =>
      by_cases h : other.text = url <;> simp [edit, step?, h]
  | _ => rfl

/-- A further message opens or closes its document, and a change does neither. -/
theorem isOpen_concat_iff :
    IsOpen url (messages ++ [message]) ↔
      match message.step? url with
      | none | some (.changed ..) => IsOpen url messages
      | some (.opened _) => True
      | some .closed => False := by
  rw [IsOpen, List.filterMap_append, List.filter_append]
  cases h : message.step? url with
  | none => simp [h, IsOpen]
  | some step => cases step <;> simp [h, DocumentStep.isChange, IsOpen]

/-- Of messages that only change open documents the last one changes an open one too. -/
theorem ChangesOpen.of_concat (h : ChangesOpen (messages ++ [message])) :
    ChangesOpen messages ∧ ∀ url ∈ message.changed?, IsOpen url messages := by
  refine ⟨fun n hn url hurl => ?_, fun url hurl => ?_⟩
  · have hlater := h n (by rw [List.length_append]; omega) url
    rw [List.getElem?_append_left hn, List.take_append_of_le_length (Nat.le_of_lt hn)] at hlater
    exact hlater hurl
  · have hlast := h messages.length (by simp) url
    rw [List.getElem?_concat_length, List.take_left] at hlast
    exact hlast hurl

/-- A further message makes the server hold its document if it opens or changes it, until it closes it. -/
theorem isHeld_concat_iff :
    IsHeld url (messages ++ [message]) ↔
      match message.step? url with
      | none => IsHeld url messages
      | some (.opened _) | some (.changed ..) => True
      | some .closed => False := by
  rw [IsHeld, List.filterMap_append]
  cases h : message.step? url with
  | none => simp [h, IsHeld]
  | some step => cases step <;> simp [h]

/-- A document that is changed only while it is open is held exactly while it is open. -/
theorem isHeld_iff_isOpen (h : ChangesOpen messages) : IsHeld url messages ↔ IsOpen url messages := by
  induction messages using List.reverseRecOn with
  | nil => simp [IsHeld, IsOpen]
  | append_singleton messages message ih =>
      obtain ⟨hbefore, hopen⟩ := h.of_concat
      rw [isHeld_concat_iff, isOpen_concat_iff]
      cases hstep : message.step? url with
      | none => exact ih hbefore
      | some step =>
          cases step with
          | changed version texts =>
              exact iff_of_true trivial (hopen url (changed?_of_step? hstep))
          | opened document => rfl
          | closed => rfl

/-- A document has a text exactly while it is held. -/
theorem isSome_after?_iff :
    (Document.after? url messages).isSome = true ↔ IsHeld url messages := by
  induction messages using List.reverseRecOn with
  | nil => simp [Document.after?, IsHeld]
  | append_singleton messages message ih =>
      rw [isHeld_concat_iff, Document.after?, List.foldl_concat, ← Document.after?, edit_eq]
      cases hstep : message.step? url with
      | none => exact ih
      | some step => cases step <;> simp

end Message

namespace Receipt

/-- The version that a change tells of the document of a URL. -/
def version? (url : String) (receipt : Receipt) : Option Int :=
  match receipt.message.step? url with
  | some (.changed version _) => some version
  | _ => none

/-- The text that a change brings to the document of a URL: its last one, if it has any and is not
older than the document that is held when it comes. -/
def text? (url : String) (receipt : Receipt) : Option String :=
  match receipt.message.step? url, receipt.server.documents.get? url with
  | some (.changed version texts), some held => if held.version ≤ version then texts.getLast? else none
  | _, _ => none

end Receipt

/-- The last opening of a document, and what came since: no other opening of it, and no closing. -/
structure Opening (url : String) (receipts : List Receipt) where
  before : List Receipt
  receipt : Receipt
  since : List Receipt
  document : Document
  receipts_eq : receipts = before ++ receipt :: since
  opened : receipt.message.step? url = some (.opened document)
  stays : ∀ later ∈ since, ∀ step ∈ later.message.step? url, step.isChange = true

namespace Opening

variable {url : String} {receipts : List Receipt}

/-- The versions that were told of the document since it was opened. -/
def versions (opening : Opening url receipts) : List Int :=
  opening.document.version :: opening.since.filterMap (·.version? url)

/-- The texts that the document had since it was opened. -/
def texts (opening : Opening url receipts) : List String :=
  opening.document.text :: opening.since.filterMap (·.text? url)

/-- The document has the greatest version and the last text since it was opened. -/
structure Newest (opening : Opening url receipts) (held : Document) : Prop where
  version : opening.versions.max? = some held.version
  text : opening.texts.getLast? = some held.text

def start (receipts : List Receipt) {receipt : Receipt} {document : Document}
    (h : receipt.message.step? url = some (.opened document)) :
    Opening url (receipts ++ [receipt]) :=
  ⟨receipts, receipt, [], document, rfl, h, List.forall_mem_nil _⟩

/-- When a document is opened, its first version and text are the newest. -/
theorem newest_start {receipt : Receipt} {document : Document}
    (h : receipt.message.step? url = some (.opened document)) :
    (start receipts h).Newest document := ⟨rfl, rfl⟩

def extend (opening : Opening url receipts) {receipt : Receipt}
    (h : ∀ step ∈ receipt.message.step? url, step.isChange = true) :
    Opening url (receipts ++ [receipt]) where
  before := opening.before
  receipt := opening.receipt
  since := opening.since ++ [receipt]
  document := opening.document
  receipts_eq := by
    rw [← List.cons_append, ← List.append_assoc, ← opening.receipts_eq]
  opened := opening.opened
  stays := List.forall_mem_append.mpr ⟨opening.stays, List.forall_mem_singleton.mpr h⟩

variable {opening : Opening url receipts} {receipt : Receipt} {held : Document}

theorem versions_extend (h : ∀ step ∈ receipt.message.step? url, step.isChange = true) :
    (opening.extend h).versions = opening.versions ++ (receipt.version? url).toList := by
  simp only [versions, extend, List.filterMap_append, List.cons_append]
  cases hversion : receipt.version? url <;> simp [hversion]

theorem texts_extend (h : ∀ step ∈ receipt.message.step? url, step.isChange = true) :
    (opening.extend h).texts = opening.texts ++ (receipt.text? url).toList := by
  simp only [texts, extend, List.filterMap_append, List.cons_append]
  cases htext : receipt.text? url <;> simp [htext]

/-- A message about something else leaves the newest text what it was. -/
theorem Newest.extend_of_none (hnewest : opening.Newest held)
    (hstep : receipt.message.step? url = none)
    (h : ∀ step ∈ receipt.message.step? url, step.isChange = true) :
    (opening.extend h).Newest held := by
  have hversion : receipt.version? url = none := by rw [Receipt.version?, hstep]
  have htext : receipt.text? url = none := by rw [Receipt.text?, hstep]
  constructor
  · rw [versions_extend, hversion, Option.toList_none, List.append_nil, hnewest.version]
  · rw [texts_extend, htext, Option.toList_none, List.append_nil, hnewest.text]

/-- The greatest of the versions is that of the earlier ones and the new one. -/
theorem max?_concat {versions : List Int} {greatest : Int} (h : versions.max? = some greatest)
    (version : Int) : (versions ++ [version]).max? = some (max greatest version) := by
  obtain ⟨hmem, hle⟩ := List.max?_eq_some_iff.mp h
  refine List.max?_eq_some_iff.mpr ⟨?_, List.forall_mem_append.mpr ⟨fun other hother => ?_, ?_⟩⟩
  · rw [Int.max_def]
    split
    · exact List.mem_append_right _ (List.mem_singleton_self version)
    · exact List.mem_append_left _ hmem
  · exact Int.le_trans (hle other hother) (Int.le_max_left greatest version)
  · exact List.forall_mem_singleton.mpr (Int.le_max_right greatest version)

/-- A change makes a newer document of the one that is held, or leaves it. -/
theorem Newest.extend_of_changed {version : Int} {texts : List String} (hnewest : opening.Newest held)
    (hstep : receipt.message.step? url = some (.changed version texts))
    (hheld : receipt.server.documents.get? url = some held)
    (h : ∀ step ∈ receipt.message.step? url, step.isChange = true) :
    (opening.extend h).Newest
      (if version < held.version then held else ⟨version, texts.getLast?.getD held.text⟩) := by
  have hversion : receipt.version? url = some version := by rw [Receipt.version?, hstep]
  have htext : receipt.text? url = if held.version ≤ version then texts.getLast? else none := by
    rw [Receipt.text?, hstep, hheld]
  constructor
  · rw [versions_extend, hversion, Option.toList_some, max?_concat hnewest.version]
    split
    next hlt => rw [Int.max_eq_left (Int.le_of_lt hlt)]
    next hge => rw [Int.max_eq_right (Int.not_lt.mp hge)]
  · rw [texts_extend, htext, List.getLast?_append, hnewest.text]
    by_cases hlt : version < held.version
    · rw [if_neg (Int.not_le.mpr hlt), if_pos hlt]
      rfl
    · rw [if_pos (Int.not_lt.mp hlt), if_neg hlt]
      cases texts.getLast? <;> rfl

end Opening

/-- What is held of a document is what its history tells. -/
structure Kept (url : String) (receipts : List Receipt) (messages : List Message)
    (held? : Option Document) : Prop where
  isSome_iff : held?.isSome = true ↔ Message.IsOpen url messages
  newest : ∀ held ∈ held?, ∃ opening : Opening url receipts, opening.Newest held

/-- One more message, which changes open documents only, keeps this. -/
theorem Kept.concat {url : String} {receipts : List Receipt} {messages : List Message}
    (receipt : Receipt) (h : Kept url receipts messages (receipt.server.documents.get? url))
    (hopen : ∀ other ∈ receipt.message.changed?, Message.IsOpen other messages) :
    Kept url (receipts ++ [receipt]) (messages ++ [receipt.message])
      (receipt.message.edit url (receipt.server.documents.get? url)) := by
  have hisOpen : Message.IsOpen url (messages ++ [receipt.message]) ↔ _ := Message.isOpen_concat_iff
  rw [Message.edit_eq]
  cases hstep : receipt.message.step? url with
  | none =>
      simp only [hstep] at hisOpen ⊢
      refine ⟨h.isSome_iff.trans hisOpen.symm, fun held hheld => ?_⟩
      obtain ⟨opening, hnewest⟩ := h.newest held hheld
      exact ⟨_, hnewest.extend_of_none hstep (by simp [hstep])⟩
  | some step =>
      cases step with
      | opened document =>
          simp only [hstep] at hisOpen ⊢
          refine ⟨by simp [hisOpen], fun held hheld => ?_⟩
          obtain rfl := Option.some.inj hheld
          exact ⟨_, Opening.newest_start hstep⟩
      | closed =>
          simp only [hstep] at hisOpen ⊢
          exact ⟨by simp [hisOpen], fun held hheld => absurd hheld (Option.not_mem_none held)⟩
      | changed version texts =>
          simp only [hstep] at hisOpen ⊢
          have hwas : Message.IsOpen url messages := hopen url (Message.changed?_of_step? hstep)
          obtain ⟨before, hbefore⟩ := Option.isSome_iff_exists.mp (h.isSome_iff.mpr hwas)
          refine ⟨by simp [hisOpen, hwas], fun held hheld => ?_⟩
          obtain rfl := Option.some.inj hheld
          obtain ⟨opening, hnewest⟩ := h.newest before hbefore
          rw [hbefore, Option.getD_some]
          exact ⟨_, hnewest.extend_of_changed hstep hbefore (by simp [hstep, DocumentStep.isChange])⟩

namespace Server

/-- What is held of a document is what its history tells, after the messages that were handled. -/
theorem kept_run {turns : List (Surroundings × Message)}
    (h : Message.ChangesOpen ((initial.handled turns).map (·.2))) (url : String) :
    Kept url (initial.received turns) ((initial.handled turns).map (·.2))
      ((initial.run turns).documents.get? url) := by
  rw [handled_messages] at h ⊢
  refine run_initial_induction (motive := fun receipts server =>
    Message.ChangesOpen (receipts.map (·.message)) →
      Kept url receipts (receipts.map (·.message)) (server.documents.get? url))
    (fun _ => ?_) (fun receipts receipt permits hpermits ih hchanges => ?_) turns h
  · have hclosed : ¬ Message.IsOpen url [] := by
      rintro ⟨last, hlast, -⟩
      simp at hlast
    exact ⟨iff_of_false Bool.false_ne_true hclosed,
      fun held hheld => absurd hheld (Option.not_mem_none held)⟩
  · rw [List.map_append, List.map_singleton] at hchanges ⊢
    obtain ⟨hbefore, hopen⟩ := hchanges.of_concat
    rw [Receipt.step, get?_documents_handle]
    exact Kept.concat receipt (ih hbefore) hopen

/-- A change that is older than the document that is held does nothing. -/
theorem handle_changed_of_lt {server : Server} {url : Url} {held : Document} {version : Int}
    (hheld : server.documents.get? url.text = some held) (hlt : version < held.version)
    (around : Surroundings) (texts : List String) :
    (server.handle around (.changed url version texts)).1 = server := by
  have hdocuments : server.documents.change url.text version texts = server.documents := by
    refine SortedMap.ext_get? fun probe => ?_
    rw [Documents.change, SortedMap.get?_insert, hheld, Option.getD_some, if_pos hlt]
    split
    next heq => rw [← heq, hheld]
    next => rfl
  rw [handle, hdocuments]

/-- Messages about other documents could as well not have come. -/
theorem get?_documents_run_filter (turns : List (Surroundings × Message)) (url : String) :
    (initial.run ((initial.handled turns).filter fun turn => turn.2.document? = some url)).documents.get?
        url =
      (initial.run turns).documents.get? url := by
  -- messages about documents bring no configuration, so all of them are handled
  have hhandled : initial.handled ((initial.handled turns).filter fun turn =>
      turn.2.document? = some url) =
        (initial.handled turns).filter fun turn => turn.2.document? = some url := by
    refine handled_of_unconfigured fun turn hturn => ?_
    have hdocument : turn.2.document? = some url := of_decide_eq_true (List.mem_filter.mp hturn).2
    exact Message.unconfigured_of_document? hdocument turn.1
  rw [get?_documents_run, get?_documents_run, hhandled, Document.after?, Document.after?,
    List.foldl_map, List.foldl_map, List.foldl_filter]
  congr 1
  funext held turn
  split
  next => rfl
  next hother =>
    have hstep := Message.step?_of_document?_ne (by simpa using hother)
    rw [Message.edit_eq, hstep]

/-- After any messages to a new server that change open documents only, a document is held exactly if it
is open, with the greatest version and the last text since it was opened. An older change does nothing,
and messages about other documents could as well not have come. All messages are handled, if none brings a
configuration. -/
theorem documents_newest (turns : List (Surroundings × Message))
    (hchanges : Message.ChangesOpen ((initial.handled turns).map (·.2))) :
    let server := initial.run turns
    (∀ url, (server.documents.get? url).isSome = true ↔
        Message.IsOpen url ((initial.handled turns).map (·.2))) ∧
      (∀ url held, server.documents.get? url = some held →
        ∃ opening : Opening url (initial.received turns), opening.Newest held) ∧
      (∀ url held version, server.documents.get? url.text = some held → version < held.version →
        ∀ around texts, (server.handle around (.changed url version texts)).1 = server) ∧
      (∀ url, server.documents.get? url =
        (initial.run ((initial.handled turns).filter fun turn =>
          turn.2.document? = some url)).documents.get? url) ∧
      ((∀ turn ∈ turns, turn.2.configuration? turn.1 = none) → initial.handled turns = turns) := by
  intro server
  have hkept := kept_run hchanges
  exact ⟨fun url => (hkept url).isSome_iff, fun url => (hkept url).newest,
    fun url held version hheld hlt => handle_changed_of_lt hheld hlt,
    fun url => (get?_documents_run_filter turns url).symm, handled_of_unconfigured⟩

/-! ## A document that is opened again

A document is closed and opened again with a lower version. Then it is changed, by a change that is
newer, one that is older, and one without a text, while another document is opened and closed. -/

def reopened : List (Surroundings × Message) :=
  let first := Url.ofPath "/w/a.go"
  let second := Url.ofPath "/w/b.go"
  [.opened first 9 "old", .closed first, .opened first 3 "one", .opened second 1 "other",
    .changed first 5 ["gone", "two"], .changed second 7 ["another"], .changed first 4 ["late"],
    .changed first 8 [], .closed second].map fun message => (⟨fun _ => .failed "", none, none⟩, message)

theorem documents_newest_reopened :
    let server := initial.run reopened
    let first := Url.ofPath "/w/a.go"
    Message.ChangesOpen ((initial.handled reopened).map (·.2)) ∧
      initial.handled reopened = reopened ∧
      (∃ opening : Opening first.text (initial.received reopened), opening.Newest ⟨8, "two"⟩) ∧
      server.documents.get? (Url.ofPath "/w/b.go").text = none ∧
      (server.handle ⟨fun _ => .failed "", none, none⟩ (.changed first 7 ["late"])).1 = server := by
  intro server first
  have hchanges : Message.ChangesOpen ((initial.handled reopened).map (·.2)) := by decide +kernel
  have hheld : server.documents.get? first.text = some ⟨8, "two"⟩ := by decide +kernel
  obtain ⟨hopen, hnewest, hlate, -, hhandled⟩ := documents_newest reopened hchanges
  have hsecond : ¬ Message.IsOpen (Url.ofPath "/w/b.go").text ((initial.handled reopened).map (·.2)) := by
    decide +kernel
  exact ⟨hchanges, hhandled (by decide), hnewest first.text _ hheld,
    by simpa using mt (hopen _).mp hsecond, hlate first _ 7 hheld (by decide) _ ["late"]⟩

end Server

end SsaLens
