import SsaLens.Proofs.SortedMap
import SsaLens.Server.Push

/-! # A client

A client keeps a listing for each function and follows what is pushed to it. What it keeps of one
function depends on the pushes about that function only.
-/

namespace SsaLens

/-- The listings that a client shows, by function. -/
abbrev Client := SortedMap String Listing

/-- Move the mark of the current line. -/
def Listing.follow (listing : Listing) (mark : Mark) : Listing :=
  { listing with line := some mark.line, highlightedRows := mark.highlightedRows }

namespace Push

/-- The function whose listing a push changes. -/
def function? : Push → Option String
  | listing content => some content.function
  | mark content => some content.function
  | hintsChanged | failure _ | note _ | askSettings => none

/-- What a push makes of the listing of its function. -/
def change : Push → Option Listing → Option Listing
  | listing content, _ => some content
  | mark content, kept => kept.map (·.follow content)
  | hintsChanged, kept | failure _, kept | note _, kept | askSettings, kept => kept

/-- A push that arrives twice changes nothing the second time. -/
theorem change_change (push : Push) (kept : Option Listing) :
    push.change (push.change kept) = push.change kept := by
  cases push <;> cases kept <;> rfl

end Push

namespace Client

/-- Follow a push: a listing replaces the one of its function, and a mark moves in it. -/
def receive (client : Client) : Push → Client
  | .listing content => client.insert content.function content
  | .mark content => client.mapValues fun function kept =>
      if function = content.function then kept.follow content else kept
  | .hintsChanged | .failure _ | .note _ | .askSettings => client

/-- Follow pushes one after the other. -/
def receiveAll (client : Client) (pushes : List Push) : Client := pushes.foldl receive client

variable {client : Client} {function : String}

theorem receiveAll_cons (client : Client) (push : Push) (pushes : List Push) :
    client.receiveAll (push :: pushes) = (client.receive push).receiveAll pushes := rfl

/-- A push reaches the listing of its own function only. -/
theorem get?_receive (client : Client) (push : Push) (function : String) :
    (client.receive push).get? function =
      if push.function? = some function then push.change (client.get? function)
      else client.get? function := by
  cases push with
  | listing content => simp [receive, Push.function?, Push.change]
  | mark content =>
      simp only [receive, Push.function?, Push.change, SortedMap.get?_mapValues, Option.some.injEq]
      split
      next heq => simp [heq]
      next hne => simp [Ne.symm hne]
  | hintsChanged | failure _ | note _ | askSettings => rfl

/-- Pushes about other functions leave a listing as it is. -/
theorem get?_receiveAll_of_silent {pushes : List Push}
    (h : ∀ push ∈ pushes, push.function? ≠ some function) :
    (client.receiveAll pushes).get? function = client.get? function := by
  induction pushes generalizing client with
  | nil => rfl
  | cons head rest ih =>
      obtain ⟨hhead, hrest⟩ := List.forall_mem_cons.mp h
      rw [receiveAll_cons, ih hrest, get?_receive, if_neg hhead]

/-- If all pushes about a function are the same, it does not matter how many there are, and where
they stand. -/
theorem get?_receiveAll_of_mem {pushes : List Push} {push : Push} (hmem : push ∈ pushes)
    (hfunction : push.function? = some function)
    (honly : ∀ other ∈ pushes, other.function? = some function → other = push) :
    (client.receiveAll pushes).get? function = push.change (client.get? function) := by
  induction pushes generalizing client with
  | nil => exact absurd hmem List.not_mem_nil
  | cons head rest ih =>
      obtain ⟨hhead, hrest⟩ := List.forall_mem_cons.mp honly
      -- a push that comes again changes nothing more
      by_cases hlater : push ∈ rest
      · rw [receiveAll_cons, ih hlater hrest, get?_receive]
        split
        next habout => rw [hhead habout, Push.change_change]
        next => rfl
      · obtain rfl : push = head := (List.mem_cons.mp hmem).resolve_right hlater
        have hsilent : ∀ other ∈ rest, other.function? ≠ some function :=
          fun other hother habout => hlater (hrest other hother habout ▸ hother)
        rw [receiveAll_cons, get?_receiveAll_of_silent hsilent, get?_receive, if_pos hfunction]

end Client

end SsaLens
