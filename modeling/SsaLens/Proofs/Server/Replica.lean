import SsaLens.Proofs.Server.Client
import SsaLens.Proofs.Session.Refresh
import SsaLens.Proofs.View.Events
import SsaLens.Server

/-! # The client's copy of the views

A client that follows all pushes shows the views of its server after every message. A message that
changes a view pushes it as it is afterwards, and pushes nothing about the other views; therefore
the order of its pushes does not matter.
-/

namespace SsaLens

/-- What pushes tell about a function: nothing, while its listing stays, or one thing, which makes
the new listing of the old one. -/
inductive Told (pushes : List Push) (function : String) (before after : Option Listing) : Prop
  | nothing (hsilent : ∀ push ∈ pushes, push.function? ≠ some function) (hsame : before = after)
  | once (push : Push) (hmem : push ∈ pushes) (hfunction : push.function? = some function)
      (honly : ∀ other ∈ pushes, other.function? = some function → other = push)
      (hchange : push.change before = after)

namespace Told

variable {pushes received : List Push} {function : String} {before after : Option Listing}

/-- It does not matter in which order the pushes of one message arrive. -/
theorem perm (h : Told pushes function before after) (hperm : received.Perm pushes) :
    Told received function before after := by
  cases h with
  | nothing hsilent hsame =>
      exact nothing (fun push hpush => hsilent push (hperm.mem_iff.mp hpush)) hsame
  | once push hmem hfunction honly hchange =>
      exact once push (hperm.mem_iff.mpr hmem) hfunction
        (fun other hother => honly other (hperm.mem_iff.mp hother)) hchange

/-- Pushes that are about no function can be added to what a function is told. -/
theorem append {others : List Push} (h : Told pushes function before after)
    (hothers : ∀ push ∈ others, push.function? = none) :
    Told (pushes ++ others) function before after := by
  have hsilent : ∀ push ∈ others, push.function? ≠ some function := fun push hpush => by
    simp [hothers push hpush]
  cases h with
  | nothing hfirst hsame =>
      exact nothing (List.forall_mem_append.mpr ⟨hfirst, hsilent⟩) hsame
  | once push hmem hfunction honly hchange =>
      refine once push (List.mem_append_left _ hmem) hfunction ?_ hchange
      exact List.forall_mem_append.mpr
        ⟨honly, fun other hother habout => absurd habout (hsilent other hother)⟩

/-- A client that agreed before holds what it was told to hold. -/
theorem get?_receiveAll {client : Client} (h : Told pushes function (client.get? function) after) :
    (client.receiveAll pushes).get? function = after := by
  cases h with
  | nothing hsilent hsame => rw [Client.get?_receiveAll_of_silent hsilent, hsame]
  | once push hmem hfunction honly hchange =>
      rw [Client.get?_receiveAll_of_mem hmem hfunction honly, hchange]

end Told

namespace View

/-- The mark of a view that was highlighted brings its old listing to the new one. -/
theorem follow_mark {view : View} {line : UInt32} {fileName : String}
    (h : view.concerns (.highlight line fileName)) :
    view.listing.follow ((view.apply (.highlight line fileName)).mark line) =
      (view.apply (.highlight line fileName)).listing := by
  rw [apply, if_pos h]
  rfl

/-- An event that does not concern a view leaves its listing. -/
theorem listing_apply_of_not_concerns {view : View} {event : ViewEvent} (h : ¬ view.concerns event) :
    (view.apply event).listing = view.listing := by
  rw [apply_of_not_concerns h]

end View

theorem Session.function_of_start {compiler : Compiler} {directory function : String}
    {session : Session} {view : View}
    (h : (Session.start compiler directory function).value = .ok (session, view)) :
    view.function = function := by
  obtain ⟨dump, -, -, rfl⟩ := Session.start_eq_ok_iff.mp h
  rfl

namespace OpenView

/-- Follow an event. -/
def follow (held : OpenView) (event : ViewEvent) : OpenView :=
  { held with view := held.view.apply event }

/-- What is pushed of a view when the cursor moved to a line of a file. -/
def mark? (held : OpenView) (line : UInt32) (fileName : String) : Option Push :=
  if held.view.concerns (.highlight line fileName) then
    some (.mark ((held.view.apply (.highlight line fileName)).mark line))
  else none

/-- The view that a saved file makes of one. The views of other files stay, and those whose build
failed. -/
def rebuilt? (held : OpenView) (machine : Machine) (fileName : String) : Option OpenView :=
  (if held.session.fileName = fileName then held.rebuild machine fileName else pure none).value

variable {held after : OpenView} {machine : Machine} {fileName : String}

theorem function_of_rebuilt? (h : held.rebuilt? machine fileName = some after) :
    after.view.function = held.view.function := by
  unfold rebuilt? rebuild at h
  split at h
  · simp only [Traced.value_bind] at h
    split at h
    next => exact absurd h (Option.some_ne_none after).symm
    next snapshot hsnapshot =>
      simp only [Traced.value_pure] at h
      split at h
      next => exact Option.some.inj h ▸ (held.view.names_apply _).1
      next => exact absurd h (Option.some_ne_none after).symm
  · exact absurd h (Option.some_ne_none after).symm

end OpenView

namespace Server

/-- The listings of the views. -/
def listings (server : Server) : Client := server.views.mapValues fun _ held => held.view.listing

/-- Every view is kept under its function. -/
def Named (server : Server) : Prop :=
  ∀ function held, server.views.get? function = some held → held.view.function = function

/-- The pushes of a step tell what it does to the listings. -/
def Tells (server : Server) (step : Server × Effect) : Prop :=
  ∀ function, Told step.2.pushes function (server.listings.get? function)
    (step.1.listings.get? function)

/-- A step keeps the views under their functions, and its pushes tell what it does to them. -/
structure Sound (server : Server) (step : Server × Effect) : Prop where
  named : step.1.Named
  tells : server.Tells step

theorem get?_listings (server : Server) (function : String) :
    server.listings.get? function = (server.views.get? function).map (·.view.listing) :=
  SortedMap.get?_mapValues _ _ _

variable {server : Server} {step : Server × Effect}

/-- A step that leaves the views and is silent about functions is sound. -/
theorem sound_of_views_eq (h : server.Named) (hviews : step.1.views = server.views)
    (hpushes : ∀ push ∈ step.2.pushes, push.function? = none) : server.Sound step := by
  refine ⟨by rwa [Named, hviews], fun function => ?_⟩
  rw [get?_listings, get?_listings, hviews]
  exact .nothing (fun push hpush => by simp [hpushes push hpush]) rfl

section Views

variable {next : OpenView → OpenView}
variable (hviews : step.1.views = server.views.mapValues fun _ held => next held)

include hviews

/-- Views that change one by one stay under their functions if they keep these. -/
theorem named_of_mapValues (h : server.Named)
    (hnext : ∀ held, (next held).view.function = held.view.function) : step.1.Named := by
  intro function held hheld
  rw [hviews, SortedMap.get?_mapValues] at hheld
  obtain ⟨old, hold, rfl⟩ := Option.map_eq_some_iff.mp hheld
  rw [hnext, h function old hold]

/-- A step that treats every view by itself, and pushes for each view at most one thing, which
makes its new listing. -/
theorem tells_of_mapValues (h : server.Named) (push? : OpenView → Option Push)
    (hpushes : ∀ push, push ∈ step.2.pushes ↔
      ∃ function held, server.views.get? function = some held ∧ push? held = some push)
    (hsome : ∀ held push, push? held = some push →
      push.function? = some held.view.function ∧
        push.change (some held.view.listing) = some (next held).view.listing)
    (hnone : ∀ held, push? held = none → (next held).view.listing = held.view.listing) :
    server.Tells step := by
  intro function
  have hafter : step.1.listings.get? function =
      (server.views.get? function).map fun held => (next held).view.listing := by
    rw [get?_listings, hviews, SortedMap.get?_mapValues, Option.map_map]
    rfl
  -- a push about the function comes from the view that is kept under it
  have horigin : ∀ push ∈ step.2.pushes, push.function? = some function →
      ∃ held, server.views.get? function = some held ∧ push? held = some push := by
    intro push hpush habout
    obtain ⟨other, held, hheld, hpushed⟩ := (hpushes push).mp hpush
    have hother : other = function := by
      rw [← h other held hheld]
      exact Option.some.inj ((hsome held push hpushed).1.symm.trans habout)
    exact ⟨held, hother ▸ hheld, hpushed⟩
  rw [get?_listings, hafter]
  cases hheld : server.views.get? function with
  | none =>
      refine .nothing (fun push hpush habout => ?_) rfl
      obtain ⟨held, hsome, -⟩ := horigin push hpush habout
      exact absurd (hheld.symm.trans hsome) (Option.some_ne_none held).symm
  | some held =>
      cases hpushed : push? held with
      | none =>
          refine .nothing (fun push hpush habout => ?_) (by simp [hnone held hpushed])
          obtain ⟨other, hother, hpush⟩ := horigin push hpush habout
          obtain rfl : held = other := Option.some.inj (hheld.symm.trans hother)
          exact absurd (hpushed.symm.trans hpush) (Option.some_ne_none push).symm
      | some push =>
          obtain ⟨habout, hchange⟩ := hsome held push hpushed
          refine .once push ((hpushes push).mpr ⟨function, held, hheld, hpushed⟩)
            (h function held hheld ▸ habout) ?_ hchange
          intro other hother hsame
          obtain ⟨origin, horigin, hpush⟩ := horigin other hother hsame
          obtain rfl : held = origin := Option.some.inj (hheld.symm.trans horigin)
          exact Option.some.inj (hpush.symm.trans hpushed)

end Views

theorem select_sound (h : server.Named) (url : Url) (line : UInt32) :
    server.Sound (server.select url line) := by
  unfold select
  split
  · exact sound_of_views_eq h rfl (by simp)
  next fileName hfile =>
    have hviews : server.views.mapValues
          (fun _ held => { held with view := held.view.apply (.highlight (line + 1) fileName) }) =
        server.views.mapValues fun _ held => held.follow (.highlight (line + 1) fileName) := rfl
    refine ⟨named_of_mapValues hviews h fun held => (held.view.names_apply _).1,
      tells_of_mapValues hviews h (·.mark? (line + 1) fileName) ?_ ?_ ?_⟩
    · intro push
      simp only [SortedMap.mapValues, List.filter_map, List.map_map, List.mem_map, List.mem_filter,
        Function.comp_apply, View.concerns_apply, OpenView.mark?, SortedMap.get?_eq_some_iff,
        Option.ite_some_none_eq_some, Prod.exists, and_assoc]
    · intro held push hpush
      obtain ⟨hconcerns, rfl⟩ := Option.ite_some_none_eq_some.mp hpush
      refine ⟨congrArg some (held.view.names_apply _).1, ?_⟩
      exact congrArg some (View.follow_mark hconcerns)
    · intro held hnone
      refine View.listing_apply_of_not_concerns fun hconcerns => ?_
      simp [OpenView.mark?, hconcerns] at hnone

theorem rebuildViews_sound (h : server.Named) (machine : Machine) (fileName : String) :
    server.Sound (server.rebuildViews machine fileName) := by
  have hviews : (server.rebuildViews machine fileName).1.views =
      server.views.mapValues fun _ held => (held.rebuilt? machine fileName).getD held := rfl
  refine ⟨named_of_mapValues hviews h fun held => ?_, tells_of_mapValues hviews h (fun held =>
    (held.rebuilt? machine fileName).map fun after => .listing after.view.listing) ?_ ?_ ?_⟩
  · cases hrebuilt : held.rebuilt? machine fileName with
    | none => rfl
    | some after => exact OpenView.function_of_rebuilt? hrebuilt
  · intro push
    have hpushes : (server.rebuildViews machine fileName).2.pushes =
        server.views.entries.filterMap fun entry =>
          (entry.2.rebuilt? machine fileName).map fun after => .listing after.view.listing := rfl
    rw [hpushes]
    simp only [List.mem_filterMap, Prod.exists, SortedMap.get?_eq_some_iff]
  · intro held push hpush
    obtain ⟨after, hafter, rfl⟩ := Option.map_eq_some_iff.mp hpush
    refine ⟨congrArg some (OpenView.function_of_rebuilt? hafter), ?_⟩
    rw [hafter]
    rfl
  · intro held hnone
    rw [Option.map_eq_none_iff.mp hnone]
    rfl

/-- Showing a listing keeps a view under its function and pushes its listing, or changes nothing. -/
theorem showListing_cases (server : Server) (around : Surroundings) (name : String) :
    ((server.showListing around name).1 = server ∧
        ∀ push ∈ (server.showListing around name).2.pushes, push.function? = none) ∨
      ∃ held : OpenView,
        (server.showListing around name).1 =
            { server with views := server.views.insert held.view.function held } ∧
          (server.showListing around name).2.pushes = [.listing held.view.listing] := by
  unfold showListing
  dsimp only
  split
  · exact Or.inl ⟨rfl, by simp⟩
  split
  · exact Or.inl ⟨rfl, by simp [Push.function?]⟩
  · exact Or.inl ⟨rfl, by simp⟩
  split
  · exact Or.inl ⟨rfl, by simp [Push.function?]⟩
  next session view hstart =>
    refine Or.inr ⟨⟨session, server.toolchain around, view⟩, ?_, rfl⟩
    rw [Session.function_of_start hstart]

theorem showListing_sound (h : server.Named) (around : Surroundings) (name : String) :
    server.Sound (server.showListing around name) := by
  rcases server.showListing_cases around name with ⟨hserver, hsilent⟩ | ⟨held, hserver, hpushes⟩
  · exact sound_of_views_eq h (by rw [hserver]) hsilent
  · constructor
    · intro function other hother
      rw [hserver, SortedMap.get?_insert] at hother
      split at hother
      next heq => rw [← Option.some.inj hother, heq]
      next hne => exact h function other hother
    · intro function
      rw [hpushes, get?_listings, get?_listings, hserver, SortedMap.get?_insert]
      by_cases heq : held.view.function = function
      · refine .once (.listing held.view.listing) List.mem_cons_self (congrArg some heq)
          (fun other hother _ => List.mem_singleton.mp hother) ?_
        rw [if_pos heq]
        rfl
      · refine .nothing (List.forall_mem_singleton.mpr fun habout => heq ?_) (by rw [if_neg heq])
        exact Option.some.inj habout

theorem renewAnnotations_silent (server : Server) (around : Surroundings) (root : Path)
    (fileName : String) :
    (server.renewAnnotations around root fileName).1.views = server.views ∧
      ∀ push ∈ (server.renewAnnotations around root fileName).2.pushes, push.function? = none := by
  unfold renewAnnotations
  split
  · exact ⟨rfl, by simp [Push.function?]⟩
  · exact ⟨rfl, by simp⟩

/-- Saving a file rebuilds the views of a file and renews its annotations, or changes nothing. -/
theorem save_cases (server : Server) (around : Surroundings) (url : Url) :
    ((server.save around url).1 = server ∧ (server.save around url).2.pushes = []) ∨
      ∃ root fileName,
        (server.save around url).1 =
            ((server.rebuildViews around.machine fileName).1.renewAnnotations around root fileName).1 ∧
          (server.save around url).2.pushes =
            (server.rebuildViews around.machine fileName).2.pushes ++
              ((server.rebuildViews around.machine fileName).1.renewAnnotations
                around root fileName).2.pushes := by
  unfold save
  split
  next =>
    split
    next => exact Or.inl ⟨rfl, rfl⟩
    next root _ =>
      split
      next => exact Or.inl ⟨rfl, rfl⟩
      next => exact Or.inl ⟨rfl, rfl⟩
      next fileName _ _ _ => exact Or.inr ⟨root, fileName, rfl, rfl⟩
  next => exact Or.inl ⟨rfl, rfl⟩

theorem save_sound (h : server.Named) (around : Surroundings) (url : Url) :
    server.Sound (server.save around url) := by
  rcases server.save_cases around url with ⟨hserver, hpushes⟩ | ⟨root, fileName, hserver, hpushes⟩
  · exact sound_of_views_eq h (by rw [hserver]) (by simp [hpushes])
  · obtain ⟨hnamed, htells⟩ := rebuildViews_sound h around.machine fileName
    -- the annotations touch no view
    obtain ⟨hviews, hsilent⟩ :=
      (server.rebuildViews around.machine fileName).1.renewAnnotations_silent around root fileName
    rw [← hserver] at hviews
    constructor
    · intro function held hheld
      rw [hviews] at hheld
      exact hnamed function held hheld
    · intro function
      rw [hpushes, get?_listings, get?_listings, hviews, ← get?_listings, ← get?_listings]
      exact (htells function).append hsilent

theorem toggle_silent (server : Server) (around : Surroundings) (url : Option Url) :
    (server.toggle around url).1.views = server.views ∧
      ∀ push ∈ (server.toggle around url).2.pushes, push.function? = none := by
  unfold toggle
  split
  · exact ⟨rfl, by simp [Push.function?]⟩
  split
  · exact ⟨rfl, by simp [Push.function?]⟩
  split
  · exact ⟨rfl, by simp⟩
  · exact ⟨rfl, by simp⟩
  unfold toggleFile
  split
  · exact ⟨rfl, by simp [Push.function?]⟩
  · exact ⟨rfl, by simp [Push.function?]⟩

theorem views_configure (server : Server) (answer : Option Json) :
    (server.configure answer).views = server.views := by
  unfold configure
  split <;> rfl

/-- Every message is handled soundly. -/
theorem handle_sound (h : server.Named) (around : Surroundings) (message : Message) :
    server.Sound (server.handle around message) := by
  cases message with
  | selected url line => exact select_sound h url line
  | saved url => exact save_sound h around url
  | showListing name => exact showListing_sound h around name
  | toggleAnnotations url =>
      obtain ⟨hviews, hsilent⟩ := server.toggle_silent around url
      exact sound_of_views_eq h hviews hsilent
  | ready => exact sound_of_views_eq h (server.views_configure _) (by simp [handle, Push.function?])
  | settingsChanged =>
      exact sound_of_views_eq h (server.views_configure _) (by simp [handle, Push.function?])
  | begun | opened | changed | closed | codeLens | hints | nothing | shutdown =>
      exact sound_of_views_eq h rfl (by simp [handle])

/-- A message with what the server sees while it handles it, and the order in which its pushes
arrive. -/
structure Turn where
  around : Surroundings
  message : Message
  order : List Push → List Push
  order_perm : ∀ pushes, (order pushes).Perm pushes

/-- A server and a client that follows it. -/
structure Pair where
  server : Server
  client : Client

/-- Handle a message and follow its pushes. -/
def Pair.take (pair : Pair) (turn : Turn) : Pair where
  server := (pair.server.handle turn.around turn.message).1
  client := pair.client.receiveAll (turn.order (pair.server.handle turn.around turn.message).2.pushes)

/-- Handle messages one after the other. The server ends with the first one that is not finished. -/
def Pair.takeAll (pair : Pair) : List Turn → Pair
  | [] => pair
  | turn :: rest =>
      if (pair.server.handle turn.around turn.message).2.finished then (pair.take turn).takeAll rest
      else pair.take turn

/-- A new server with a client that shows nothing, after some messages. -/
def Pair.after (turns : List Turn) : Pair := Pair.takeAll ⟨Server.initial, ∅⟩ turns

/-- The client shows the views, and they are kept under their functions. -/
structure Pair.Agree (pair : Pair) : Prop where
  named : pair.server.Named
  same : pair.client = pair.server.listings

namespace Pair

/-- A client that agrees with the server agrees with it after one message. -/
theorem Agree.take {pair : Pair} (h : pair.Agree) (turn : Turn) : (pair.take turn).Agree := by
  obtain ⟨hnamed, htells⟩ := handle_sound h.named turn.around turn.message
  refine ⟨hnamed, SortedMap.ext_get? fun function => ?_⟩
  -- the pushes arrive in some order, and the client starts from what it shows
  have htold := (htells function).perm (turn.order_perm _)
  rw [← h.same] at htold
  exact htold.get?_receiveAll

/-- A client that agrees with the server agrees with it after any messages. -/
theorem Agree.takeAll {pair : Pair} (h : pair.Agree) (turns : List Turn) :
    (pair.takeAll turns).Agree := by
  induction turns generalizing pair with
  | nil => exact h
  | cons turn rest ih =>
      rw [Pair.takeAll]
      split
      · exact ih (h.take turn)
      · exact h.take turn

/-- A new server with a client that shows nothing agree, and so they always do. -/
theorem agree_after (turns : List Turn) : (after turns).Agree := by
  have hfirst : Agree ⟨Server.initial, ∅⟩ :=
    ⟨fun _ _ hheld => absurd hheld (Option.some_ne_none _).symm, rfl⟩
  exact hfirst.takeAll turns

/-- The server of a pair runs on the messages, whatever the client receives. -/
theorem server_takeAll (pair : Pair) (turns : List Turn) :
    (pair.takeAll turns).server =
      pair.server.run (turns.map fun turn => (turn.around, turn.message)) := by
  induction turns generalizing pair with
  | nil => rfl
  | cons turn rest ih =>
      rw [takeAll, List.map_cons, run.eq_def]
      dsimp only
      split
      · exact ih (pair.take turn)
      · rfl

/-- After every message the client shows exactly one listing for each view of the server, under the
function of the view, and it is the listing of the view as it is now. -/
theorem client_after_eq_views (turns : List Turn) :
    (after turns).server = Server.initial.run (turns.map fun turn => (turn.around, turn.message)) ∧
      (after turns).client.entries = (after turns).server.views.entries.map fun (function, held) =>
        (function,
          { function
            text := Text.joined held.view.dump
            report := held.view.report
            rows := held.view.rows
            line := held.view.highlight
            fileName := held.view.fileName
            highlightedRows := held.view.highlightedRows }) := by
  refine ⟨server_takeAll _ turns, ?_⟩
  obtain ⟨hnamed, hsame⟩ := agree_after turns
  rw [hsame]
  refine List.map_congr_left fun (function, held) hentry => ?_
  have hfunction := hnamed function held (SortedMap.get?_eq_some_iff.mpr hentry)
  simp only [View.listing, hfunction]

end Pair

end Server

end SsaLens
