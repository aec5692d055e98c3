import Signet.Clock
import Signet.Dict
import Signet.Error
import Signet.Log.Event
import Signet.Secret

/-! A store of secrets with deadlines. An entry whose deadline has come is invisible at once and
stays held until it is replaced, deleted or purged; so does an empty secret. -/

namespace Signet

/-- A secret and the moment from which it is no longer visible. -/
@[ext]
structure Entry where
  secret : Secret
  deadline : Instant
  deriving DecidableEq, Repr

/-- Whether an entry is visible. -/
def Entry.isLive (entry : Entry) (now : Instant) : Bool :=
  now < entry.deadline && !entry.secret.isEmpty

/-- Secrets by key. -/
structure Store where
  entries : Dict Entry
  deriving DecidableEq, Repr

namespace Store

/-- The store that holds nothing. -/
def empty : Store := ⟨Dict.empty⟩

instance : Inhabited Store := ⟨empty⟩

/-- Number of entries held, visible or not. -/
def size (store : Store) : Nat := store.entries.size

/-- The visible entry under a key. -/
def live? (store : Store) (now : Instant) (key : String) : Option Entry :=
  (store.entries.find? key).filter (·.isLive now)

/-- The visible secrets under these keys. -/
def get (store : Store) (now : Instant) (keys : List String) : Dict Secret :=
  Dict.ofList (keys.filterMap fun key =>
    (store.live? now key).map fun entry => (key, entry.secret))

/-- The deadline of an entry that is written now. -/
def deadline (now : Instant) (ttl : Span) : Except StoreError Instant :=
  match now.after? ttl with
  | some moment => .ok moment
  | none => .error (.protocol s!"ttl of {ttl.text} is out of range")

/-- Writes secrets, whatever their keys held before. -/
def put (store : Store) (now : Instant) (secrets : Dict Secret) (ttl : Span) :
    Except StoreError Store := do
  let deadline ← deadline now ttl
  return ⟨secrets.toList.foldl (fun entries item => entries.insert item.1 ⟨item.2, deadline⟩)
    store.entries⟩

/-- Writes a secret unless a visible one is there, and answers the one that is visible afterwards. A
visible secret stays, and its deadline never comes nearer. -/
def claim (store : Store) (now : Instant) (key : String) (secret : Secret) (ttl : Span) :
    Except StoreError (Secret × Store) := do
  let renewed ← deadline now ttl
  match store.live? now key with
  | some entry =>
    let kept : Entry := ⟨entry.secret, max entry.deadline renewed⟩
    return (entry.secret, ⟨store.entries.insert key kept⟩)
  | none => return (secret, ⟨store.entries.insert key ⟨secret, renewed⟩⟩)

/-- Drops keys, held or not. -/
def delete (store : Store) (keys : List String) : Store :=
  ⟨keys.foldl Dict.erase store.entries⟩

/-- Drops every entry that is not visible, and counts them. -/
def purge (store : Store) (now : Instant) : Nat × Store :=
  let kept : Store := ⟨store.entries.keep fun _ entry => entry.isLive now⟩
  (store.size - kept.size, kept)

/-- What a purge reports. -/
def purgeReport (purged : Nat) : List Log.Event :=
  if 0 < purged then [⟨.debug, "purged expired secrets", [("purged", toString purged)]⟩] else []

/-- Milliseconds between two purges of a store that is served. -/
def purgeInterval : Nat := 30000

/-- Purges made when a served store's clock has moved: one for every tick that was passed, all of them
at the later moment. -/
def purgeTicks (store : Store) (started before now : Instant) : List Log.Event × Store :=
  let ticks := fun moment => (moment - started) / Span.ofMillis purgeInterval
  if ticks before < ticks now then
    let (purged, kept) := store.purge now
    (purgeReport purged, kept)
  else ([], store)

end Store
end Signet
