import TagAudit.Table
import TagAudit.Tag.Detail

/-!
The profile of a file: its tags, why each is present, and how many there are of each origin.

`TagProfile` and `ExtractionStats`, with `has` and `with_compound_tags`.
-/

namespace TagAudit.Tag

/-- The tags of a file, details on tags, and the statistics that are reported with them. The three
are kept side by side: a tag need not have a detail. -/
structure Profile where
  /-- The set of tags, in the order in which they came. -/
  tags : List String
  tags_nodup : tags.Nodup
  details : Table String Detail
  totalTags : Nat
  byOrigin : Table Origin Nat

namespace Profile

def has (p : Profile) (tag : String) : Bool := tag ∈ p.tags

/-- The profile of findings, in order; of several findings of one tag the last one counts. -/
def ofFindings (findings : List (String × Detail)) : Profile :=
  let details := Table.ofList findings
  ⟨details.keys, details.nodup, details, details.size, Table.counts (details.values.map Detail.origin)⟩

/-- The profile with only the wanted tags, in the order in which they are asked for. The total
counts a tag as often as it is asked for. -/
def only (p : Profile) (wanted : List String) : Profile :=
  let found := wanted.filter p.has
  let details := Table.ofList (found.filterMap fun tag => (p.details.get? tag).map (tag, ·))
  ⟨found.eraseDups, nodup_eraseDups found, details, found.length,
    Table.counts (details.values.map Detail.origin)⟩

/-- The profile with compound tags, given by their names and conditions. Without any it stays as it
is. -/
def withCompounds (p : Profile) (compounds : List (String × String)) : Profile :=
  if compounds.isEmpty then p
  else
    let tags := (p.tags ++ compounds.map Prod.fst).eraseDups
    let details := p.details.putAll (compounds.map fun c => (c.1, .compound c.2))
    ⟨tags, nodup_eraseDups _, details, tags.length, p.byOrigin.put .compound compounds.length⟩

end Profile

/-- Texts in the order of their characters' code points. -/
def sorted (texts : List String) : List String :=
  texts.mergeSort fun a b => decide (a ≤ b)

def originCounts (counts : Table Origin Nat) : Document :=
  .object (counts.entries.map fun e => (e.1.name, .ofNat e.2))

def detailTable (details : Table String Detail) : Document :=
  .object (details.entries.map fun e => (e.1, e.2.toDocument))

def Profile.stats (p : Profile) : Document :=
  .object [("total_tags", .ofNat p.totalTags), ("by_source", originCounts p.byOrigin)]

def Profile.toDocument (p : Profile) : Document :=
  .object [("tags", .ofTexts (sorted p.tags)), ("details", detailTable p.details),
    ("stats", p.stats)]

end TagAudit.Tag
