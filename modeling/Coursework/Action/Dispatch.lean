import Coursework.Action.Reduce
import Coursework.Action.Request

/-!
# Dispatch

Actions as the screens issue them. A local action goes to its own slice at once. A remote one is
planned, and its call is sent; on the server there is no backend to call, so nothing comes of it.
-/

namespace Coursework.Store

/-- The store after a call has been sent, which outside the browser is skipped. -/
def send (store : Store) (_ : Request) : Store := store

/-- The store after an action has been issued. A remote action without an object is dropped. -/
def dispatch (store : Store) (action : Action) : Store :=
  if !action.isRemote then
    match action with
    | .review action => { store with review := store.review.reduce action }
    | other => { store with selection := store.selection.reduce other }
  else
    match store.plan? action with
    | some request => store.send request
    | none => store

/-- The store after actions that belong to one gesture, in order. -/
def dispatchAll (store : Store) (actions : List Action) : Store :=
  actions.foldl dispatch store

/-- What the screens learn about an action that is issued: whether it needs the backend, and the
call that it stands for at that moment. -/
structure Issued where
  action : Action
  isRemote : Bool
  request : Option Request
  deriving DecidableEq

/-- The account of an action that is about to be issued. -/
def issued (store : Store) (action : Action) : Issued :=
  ⟨action, action.isRemote, store.plan? action⟩

/-- Issues actions in order, with the account of each. -/
def issueAll (store : Store) : List Action → List Issued × Store
  | [] => ([], store)
  | action :: rest =>
    let (accounts, after) := (store.dispatch action).issueAll rest
    (store.issued action :: accounts, after)

end Coursework.Store
