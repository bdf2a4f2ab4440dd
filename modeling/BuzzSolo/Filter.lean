import BuzzSolo.Ingest

/-! NIP-01 filter matching: filters are alternatives, the fields of one filter all apply. -/
namespace BuzzSolo

open Ingest

/-- A filter; each entry of `genericTags` is a single-letter tag with the values asked for. -/
structure Filter where
  ids : Option (List EventId)
  authors : Option (List PublicKey)
  kinds : Option (List ℕ)
  search : Option String
  since : Option ℕ
  untilTime : Option ℕ
  limit : Option ℕ
  genericTags : List (Char × List String)
  deriving DecidableEq

namespace Filter

def new : Filter := ⟨none,none,none,none,none,none,none,[]⟩

def uuidText (u : Uuid) : String :=
  let hex := u.toHex.toList
  String.ofList (hex.take 8 ++ '-' :: (hex.drop 8).take 4 ++ '-' :: (hex.drop 12).take 4 ++
    '-' :: (hex.drop 16).take 4 ++ '-' :: hex.drop 20)

/-- One entry of the tag part of a filter. A channel filter falls back on the derived
channel of an event that has no `h` tag at all. -/
def tagMatches (ev : StoredEvent) (key : Char) (values : List String) : Bool :=
  let hasMatch := values.any fun value =>
    ((ev.event.tagsNamed (String.singleton key)).filterMap Tag.content).any fun v => v = value
  if !hasMatch && key = 'h' then
    if (ev.event.tagsNamed "h").isEmpty then
      match ev.channelId with
      | some channel => values.any fun v => v = uuidText channel
      | none => false
    else false
  else hasMatch

def filterMatchOne (f : Filter) (ev : StoredEvent) : Bool :=
  (match f.kinds with
    | some kinds => kinds.contains ev.event.kind
    | none => true) && (match f.authors with
    | some authors => authors.contains ev.event.pubkey
    | none => true) && (match f.since with
    | some since => !decide (ev.event.createdAt < since)
    | none => true) && (match f.untilTime with
    | some untilTime => !decide (untilTime < ev.event.createdAt)
    | none => true) && (match f.ids with
    | some ids => ids.any fun id => id.toHex.toList.isPrefixOf ev.event.id.toHex.toList
    | none => true) && f.genericTags.all fun entry => tagMatches ev entry.1 entry.2

def filtersMatch (filters : List Filter) (ev : StoredEvent) : Bool := filters.any fun f => filterMatchOne f ev

end Filter
end BuzzSolo
