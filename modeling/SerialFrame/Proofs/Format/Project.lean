import SerialFrame.Format.Project
import SerialFrame.Proofs.Format.Token
import SerialFrame.Sample.Projects

/-!
# Projects read back

`files_round_trip`: a project that is written in either layout reads back as it was. A text may say
the same in other ways; what a project makes of it is told by its `Listing`, the segments and tokens
as they stand in the text. Literals that meet are joined and tokens take the ids they are listed
under, so that a project that was read can be written and read again.
-/

namespace SerialFrame

open Format

structure Listing where
  segments : List Segment
  entries : List (TokenId × Token)

/-! ### Templates and tables -/

namespace Template

def listed? (level : Nat) (j : Json) : Option (List Segment) := do
  (← j.array?).mapM (Segment.ofJson? (level + 1))

theorem ofJson?_eq_map (level : Nat) (j : Json) :
    ofJson? level j = (listed? level j).map ofSegments := by
  simp only [ofJson?, listed?, Option.map_eq_bind, Option.bind_eq_bind, Option.bind_assoc]
  rfl

end Template

namespace TokenTable

def listed? (level : Nat) (j : Json) : Option (List (TokenId × Token)) := do
  (← j.fields?).mapM fun field => do
    return ((⟨field.1⟩ : TokenId), ← Token.ofJson? (level + 1) field.2)

theorem ofJson?_eq_map (level : Nat) (j : Json) :
    ofJson? level j = (listed? level j).map ofEntries := by
  simp only [ofJson?, listed?, Option.map_eq_bind, Option.bind_eq_bind, Option.bind_assoc]
  rfl

/-- The last token listed under an id is found by it, and that is then its own id. -/
theorem get?_ofEntries (entries : List (TokenId × Token)) (id : TokenId) :
    (ofEntries entries).get? id = (entries.reverse.lookup id).map fun t => { t with id } := by
  rw [ofEntries, get?, IdMap.get?_mapValues, IdMap.get?_ofList]

theorem keyed_ofEntries (entries : List (TokenId × Token)) : (ofEntries entries).Keyed := by
  intro entry hentry
  obtain ⟨listed, -, rfl⟩ := List.mem_map.mp hentry
  rfl

end TokenTable

/-! ### Projects -/

namespace Project

variable {p : Project}

def ofListing (l : Listing) : Project :=
  { template := .ofSegments l.segments, tokens := .ofEntries l.entries }

def listing? (j : Json) : Option Listing := do
  let fields ← recordFields? fieldNames j
  return {
    segments := ← fields.optional "segments" [] (Template.listed? 2)
    entries := ← fields.optional "tokens" [] (TokenTable.listed? 2) }

theorem optional_map {α β : Type} (fields : Fields) (name : String) (default : α)
    (read : Json → Option α) (f : α → β) :
    fields.optional name (f default) (fun j => (read j).map f) =
      (fields.optional name default read).map f := by
  unfold Fields.optional
  split <;> rfl

theorem ofJson?_eq_map (j : Json) : ofJson? j = (listing? j).map ofListing := by
  have htemplate (fields : Fields) : fields.optional "segments" .empty (Template.ofJson? 2) =
      (fields.optional "segments" [] (Template.listed? 2)).map Template.ofSegments := by
    rw [← optional_map]
    congr
    funext j
    exact Template.ofJson?_eq_map 2 j
  have htable (fields : Fields) : fields.optional "tokens" .empty (TokenTable.ofJson? 2) =
      (fields.optional "tokens" [] (TokenTable.listed? 2)).map TokenTable.ofEntries := by
    rw [← optional_map]
    congr
    funext j
    exact TokenTable.ofJson?_eq_map 2 j
  unfold ofJson? listing?
  cases recordFields? fieldNames j with
  | none => rfl
  | some fields =>
    simp only [Option.bind_eq_bind, Option.bind_some, htemplate, htable]
    cases fields.optional "segments" [] (Template.listed? 2) with
    | none => rfl
    | some segments => cases fields.optional "tokens" [] (TokenTable.listed? 2) <;> rfl

theorem plain_toJson (p : Project) : p.toJson.Plain := by
  refine .fields fun field hfield => ?_
  rcases List.mem_cons.mp hfield with rfl | hfield
  · exact p.template.plain_toJson
  · exact List.mem_singleton.mp hfield ▸ p.tokens.plain_toJson

theorem ofJson?_toJson (hkeyed : p.tokens.Keyed) : ofJson? p.toJson = some p := by
  let fields : Fields := [("segments", p.template.toJson), ("tokens", p.tokens.toJson)]
  have hfields : recordFields? fieldNames p.toJson = some fields := Json.fields?_ofFields fields
  have hsegments : fields.valuesOf "segments" = [p.template.toJson] := by simp [fields]
  have htokens : fields.valuesOf "tokens" = [p.tokens.toJson] := by simp [fields]
  have htable : TokenTable.ofJson? 2 p.tokens.toJson = some p.tokens :=
    p.tokens.ofJson?_toJson hkeyed (by decide)
  simp only [ofJson?, hfields, Option.bind_eq_bind, Option.bind_some, Fields.optional_eq hsegments,
    Fields.optional_eq htokens, Template.ofJson?_toJson, htable]
  rfl

theorem parse_written (hkeyed : p.tokens.Keyed) (l : Json.Layout) :
    parse (String.ofList (l.written 0 p.toJson)) = some p := by
  rw [parse, Json.parse_written p.plain_toJson]
  exact ofJson?_toJson hkeyed

/-- A project whose tokens are found by their own ids reads back as it was, whichever way it is
written. Every text that is read at all lists segments and tokens; the project has the segments
normalized, hence no adjacent literals, and finds the last token listed under an id, which is then
its own id even if the text gives it another one. So it reads back as well when it is written. -/
theorem files_round_trip :
    (∀ p : Project, p.tokens.Keyed →
      parse p.toJson.compact = some p ∧ parse p.toJson.pretty = some p) ∧
    ∀ text p, parse text = some p →
      (∃ j listing, Json.parse text = some j ∧ listing? j = some listing ∧
        p.template.segments = normalize listing.segments ∧
        ∀ id t, p.tokens.get? id = some t ↔
          ∃ written, listing.entries.reverse.lookup id = some written ∧ t = { written with id }) ∧
      Separated p.template.segments ∧
      (∀ t ∈ p.tokens.tokens, ∀ children, t.kind = .container children →
        Separated children.segments) ∧
      p.tokens.Keyed ∧
      parse p.toJson.compact = some p ∧ parse p.toJson.pretty = some p := by
  have hback : ∀ p : Project, p.tokens.Keyed →
      parse p.toJson.compact = some p ∧ parse p.toJson.pretty = some p := fun p hkeyed =>
    ⟨parse_written hkeyed .compact, parse_written hkeyed .pretty⟩
  refine ⟨hback, fun text p h => ?_⟩
  obtain ⟨j, hj, hp⟩ := Option.bind_eq_some_iff.mp h
  rw [ofJson?_eq_map] at hp
  obtain ⟨listing, hlisting, rfl⟩ := Option.map_eq_some_iff.mp hp
  have hkeyed : (ofListing listing).tokens.Keyed := TokenTable.keyed_ofEntries listing.entries
  refine ⟨⟨j, listing, hj, hlisting, rfl, fun id t => ?_⟩, separated_normalize _,
    fun t _ children _ => children.separated, hkeyed, hback _ hkeyed⟩
  rw [ofListing, TokenTable.get?_ofEntries, Option.map_eq_some_iff]
  simp only [eq_comm]

open Sample in
/-- The token object says `u`, but the token is listed under `t`; the two literals are one text. -/
theorem files_round_trip_listed :
    let text := "\x7b\"tokens\":\x7b\"t\":\x7b\"id\":\"u\",\"type\":\"x\"\x7d\x7d,\"segments\":[" ++
      "\x7b\"id\":\"a\",\"kind\":\"literal\",\"content\":\"0\"\x7d," ++
      "\x7b\"id\":\"b\",\"kind\":\"literal\",\"content\":\"1\"\x7d]\x7d"
    let p := project [literal "a" "01"] [token "t" .unknown]
    p.tokens.Keyed ∧ parse text = some p ∧
      p.toJson.compact = "\x7b\"segments\":[\x7b\"id\":\"a\",\"kind\":\"literal\",\"content\":\"01\"\x7d]," ++
        "\"tokens\":\x7b\"t\":\x7b\"id\":\"t\",\"type\":\"unknown\"\x7d\x7d\x7d" ∧
      parse p.toJson.compact = some p ∧ parse p.toJson.pretty = some p := by
  intro text p
  have hkeyed : p.tokens.Keyed := by decide +kernel
  have hread : parse text = some p := by decide +kernel
  obtain ⟨hwritten, hnormal⟩ := files_round_trip
  obtain ⟨-, -, -, -, hcompact, -⟩ := hnormal text p hread
  exact ⟨hkeyed, hread, by decide +kernel, hcompact, (hwritten p hkeyed).2⟩

end Project

end SerialFrame
