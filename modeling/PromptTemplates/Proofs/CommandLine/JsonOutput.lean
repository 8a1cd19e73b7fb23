import PromptTemplates.Proofs.CommandLine.Delivery
import PromptTemplates.Proofs.Document.HeaderValues
import PromptTemplates.Proofs.Json.Trees
import PromptTemplates.Proofs.Rendering.Phases
import PromptTemplates.Proofs.Value.Tables

/-!
# What the JSON output of a document says

The output is an object with the body, the attributes and the sections of the document. Reading it gives
that object back: numbers, texts and truth values as they are, dates, moments and octets as their texts,
and each attribute under the text of its key. There is an output as long as each key, at any depth, is a
text, null, a truth value or a number.
-/

namespace PromptTemplates

namespace Json

open Number

variable {v : Value} {j : Json} {name : String}

/-- The name of the member for a key. -/
inductive IsMemberName : Value → String → Prop
  | null : IsMemberName .null "null"
  | true : IsMemberName (.bool true) "true"
  | false : IsMemberName (.bool false) "false"
  | int (n : Int) : IsMemberName (.int n) (toString n)
  | float (x : Binary64) : IsMemberName (.float x) (floatText x)
  | str (s : String) : IsMemberName (.str s) s

mutual

/-- A tree shows a value. What has no form of its own in a tree is shown as its text. -/
inductive Shows : Value → Json → Prop
  | null : Shows .null .null
  | bool (b : Bool) : Shows (.bool b) (.bool b)
  | int (n : Int) : Shows (.int n) (.int n)
  | float (x : Binary64) : Shows (.float x) (.float x)
  | str (s : String) : Shows (.str s) (.str s)
  | bytes (octets : List UInt8) : Shows (.bytes octets) (.str (Value.bytes octets).text)
  | date (d : Calendar.Date) : Shows (.date d) (.str (Value.date d).text)
  | moment (m : Calendar.Moment) : Shows (.moment m) (.str (Value.moment m).text)
  | list {items trees} : ShowAll items trees → Shows (.list items) (.arr trees)
  | tuple {items trees} : ShowAll items trees → Shows (.tuple items) (.arr trees)
  | map {entries members} : ShowEntries entries members → Shows (.map entries) (.obj members)

/-- Trees show values one by one. -/
inductive ShowAll : List Value → List Json → Prop
  | nil : ShowAll [] []
  | cons {v tree items trees} : Shows v tree → ShowAll items trees → ShowAll (v :: items) (tree :: trees)

/-- Members show entries one by one, under the names of their keys. -/
inductive ShowEntries : List (Value × Value) → List (String × Json) → Prop
  | nil : ShowEntries [] []
  | cons {key name v tree entries members} : IsMemberName key name → Shows v tree →
      ShowEntries entries members → ShowEntries ((key, v) :: entries) ((name, tree) :: members)

end

mutual

/-- Each key in a value has a name. -/
def KeysNamed : Value → Prop
  | .list items => AllKeysNamed items
  | .tuple items => AllKeysNamed items
  | .map entries => EntriesNamed entries
  | _ => True

/-- Each key in some values has a name. -/
def AllKeysNamed : List Value → Prop
  | [] => True
  | v :: rest => KeysNamed v ∧ AllKeysNamed rest

/-- Each key of some entries, and in their values, has a name. -/
def EntriesNamed : List (Value × Value) → Prop
  | [] => True
  | (key, v) :: rest => (∃ name, IsMemberName key name) ∧ KeysNamed v ∧ EntriesNamed rest

end

theorem key?_eq_some_iff {key : Value} : key? key = some name ↔ IsMemberName key name := by
  constructor
  · intro h
    cases key with
    | bool b => cases b <;> cases h <;> constructor
    | null | int n | float x | str s =>
      cases h
      constructor
    | _ => cases h
  · intro h
    cases h <;> rfl

/-! ## When a value has a tree -/

mutual

theorem exists_ofValue?_iff : ∀ v : Value, (∃ j, ofValue? v = some j) ↔ KeysNamed v
  | .list items => by
    rw [KeysNamed, ← exists_ofValues?_iff items, ofValue?]
    simp
  | .tuple items => by
    rw [KeysNamed, ← exists_ofValues?_iff items, ofValue?]
    simp
  | .map entries => by
    rw [KeysNamed, ← exists_ofEntries?_iff entries, ofValue?]
    simp
  | .null | .bool _ | .int _ | .float _ | .str _ | .bytes _ | .date _ | .moment _ | .time _ | .safe _
  | .record _ | .element .. | .scope .. | .block .. | .helperContext .. | .method .. =>
    ⟨fun _ => trivial, fun _ => ⟨_, rfl⟩⟩

theorem exists_ofValues?_iff : ∀ items : List Value, (∃ trees, ofValues? items = some trees) ↔
    AllKeysNamed items
  | [] => ⟨fun _ => trivial, fun _ => ⟨_, rfl⟩⟩
  | v :: rest => by
    rw [AllKeysNamed, ← exists_ofValue?_iff v, ← exists_ofValues?_iff rest, ofValues?]
    cases ofValue? v with
    | none => simp
    | some j => cases ofValues? rest <;> simp

theorem exists_ofEntries?_iff : ∀ entries : List (Value × Value),
    (∃ members, ofEntries? entries = some members) ↔ EntriesNamed entries
  | [] => ⟨fun _ => trivial, fun _ => ⟨_, rfl⟩⟩
  | (key, v) :: rest => by
    simp only [EntriesNamed, ← exists_ofValue?_iff v, ← exists_ofEntries?_iff rest, ← key?_eq_some_iff]
    rw [ofEntries?]
    cases key? key with
    | none => simp
    | some name =>
      cases ofValue? v with
      | none => simp
      | some j => cases ofEntries? rest <;> simp

end

/-! ## What a tree of a value shows -/

mutual

/-- The tree of what a header holds shows it, and its numbers have their one form. -/
theorem shows_of_ofValue? : ∀ (v : Value) (j : Json), v.IsHeld → ofValue? v = some j →
    Shows v j ∧ j.IsCanonical
  | .list items, j, hheld, h => by
    rw [ofValue?, Option.map_eq_some_iff] at h
    obtain ⟨trees, htrees, rfl⟩ := h
    cases hheld with
    | list hitems =>
      obtain ⟨hshow, hcanonical⟩ := showAll_of_ofValues? items trees hitems htrees
      exact ⟨.list hshow, hcanonical⟩
  | .tuple items, j, hheld, h => by
    rw [ofValue?, Option.map_eq_some_iff] at h
    obtain ⟨trees, htrees, rfl⟩ := h
    cases hheld with
    | tuple hitems =>
      obtain ⟨hshow, hcanonical⟩ := showAll_of_ofValues? items trees hitems htrees
      exact ⟨.tuple hshow, hcanonical⟩
  | .map entries, j, hheld, h => by
    rw [ofValue?, Option.map_eq_some_iff] at h
    obtain ⟨members, hmembers, rfl⟩ := h
    cases hheld with
    | map hentries =>
      obtain ⟨hshow, hcanonical⟩ := showEntries_of_ofEntries? entries members hentries hmembers
      exact ⟨.map hshow, hcanonical⟩
  | .float x, j, hheld, h => by
    cases h
    cases hheld with
    | float hx => exact ⟨.float x, hx⟩
  | .null, j, _, h => by
    cases h
    exact ⟨.null, trivial⟩
  | .bool b, j, _, h => by
    cases h
    exact ⟨.bool b, trivial⟩
  | .int n, j, _, h => by
    cases h
    exact ⟨.int n, trivial⟩
  | .str s, j, _, h => by
    cases h
    exact ⟨.str s, trivial⟩
  | .bytes octets, j, _, h => by
    cases h
    exact ⟨.bytes octets, trivial⟩
  | .date d, j, _, h => by
    cases h
    exact ⟨.date d, trivial⟩
  | .moment m, j, _, h => by
    cases h
    exact ⟨.moment m, trivial⟩
  | .time _, _, hheld, _ => nomatch hheld
  | .safe _, _, hheld, _ => nomatch hheld
  | .record _, _, hheld, _ => nomatch hheld
  | .element .., _, hheld, _ => nomatch hheld
  | .scope .., _, hheld, _ => nomatch hheld
  | .block .., _, hheld, _ => nomatch hheld
  | .helperContext .., _, hheld, _ => nomatch hheld
  | .method .., _, hheld, _ => nomatch hheld

theorem showAll_of_ofValues? : ∀ (items : List Value) (trees : List Json),
    (∀ v ∈ items, v.IsHeld) → ofValues? items = some trees → ShowAll items trees ∧ AreCanonical trees
  | [], trees, _, h => by
    cases h
    exact ⟨.nil, trivial⟩
  | v :: rest, trees, hheld, h => by
    obtain ⟨hv, hrest⟩ := List.forall_mem_cons.mp hheld
    obtain ⟨tree, htree, h⟩ := Option.bind_eq_some_iff.mp h
    obtain ⟨others, hothers, h⟩ := Option.bind_eq_some_iff.mp h
    cases h
    obtain ⟨hshow, hcanonical⟩ := shows_of_ofValue? v tree hv htree
    obtain ⟨hshows, hcanonicals⟩ := showAll_of_ofValues? rest others hrest hothers
    exact ⟨.cons hshow hshows, hcanonical, hcanonicals⟩

theorem showEntries_of_ofEntries? : ∀ (entries : List (Value × Value))
    (members : List (String × Json)), (∀ e ∈ entries, e.2.IsHeld) → ofEntries? entries = some members →
    ShowEntries entries members ∧ HaveCanonical members
  | [], members, _, h => by
    cases h
    exact ⟨.nil, trivial⟩
  | (key, v) :: rest, members, hheld, h => by
    obtain ⟨hv, hrest⟩ := List.forall_mem_cons.mp hheld
    obtain ⟨name, hname, h⟩ := Option.bind_eq_some_iff.mp h
    obtain ⟨tree, htree, h⟩ := Option.bind_eq_some_iff.mp h
    obtain ⟨others, hothers, h⟩ := Option.bind_eq_some_iff.mp h
    cases h
    obtain ⟨hshow, hcanonical⟩ := shows_of_ofValue? v tree hv htree
    obtain ⟨hshows, hcanonicals⟩ := showEntries_of_ofEntries? rest others hrest hothers
    exact ⟨.cons (key?_eq_some_iff.mp hname) hshow hshows, hcanonical, hcanonicals⟩

end

/-! ## Documents -/

/-- A tree shows a section: its content, and its title if it has one. -/
inductive ShowsSection : Section → Json → Prop
  | untitled (content : String) : ShowsSection ⟨content, none⟩ (.obj [("content", .str content)])
  | titled (content title : String) :
      ShowsSection ⟨content, some title⟩ (.obj [("content", .str content), ("title", .str title)])

/-- A tree shows a document: an object with its body, its attributes and its sections, in order. -/
structure ShowsDocument (d : Document) (j : Json) : Prop where
  shown : ∃ members trees,
    j = .obj [("body", .str d.body), ("meta", .obj members), ("sections", .arr trees)] ∧
    ShowEntries d.attributes members ∧ List.Forall₂ ShowsSection d.sections trees

theorem showsSection_toJson (s : Section) : ShowsSection s s.toJson := by
  obtain ⟨content, title⟩ := s
  cases title with
  | none => exact .untitled content
  | some title => exact .titled content title

theorem areCanonical_sections (sections : List Section) :
    AreCanonical (sections.map Section.toJson) := by
  induction sections with
  | nil => trivial
  | cons s rest ih =>
    refine ⟨?_, ih⟩
    obtain ⟨content, title⟩ := s
    cases title with
    | none => exact ⟨trivial, trivial⟩
    | some title => exact ⟨trivial, trivial, trivial⟩

/-- The tree of a document whose attributes can be in a header shows the document. -/
theorem showsDocument_of_toJson? {d : Document} (hheld : Yaml.AreHeld d.attributes)
    (h : d.toJson? = some j) : ShowsDocument d j ∧ j.IsCanonical := by
  obtain ⟨members, hmembers, h⟩ := Option.bind_eq_some_iff.mp h
  cases h
  obtain ⟨hshow, hcanonical⟩ := showEntries_of_ofEntries? d.attributes members hheld hmembers
  have hsections : List.Forall₂ ShowsSection d.sections (d.sections.map Section.toJson) := by
    rw [List.forall₂_map_right_iff, List.forall₂_same]
    exact fun s _ => showsSection_toJson s
  exact ⟨⟨members, _, rfl, hshow, hsections⟩, trivial, hcanonical, areCanonical_sections d.sections,
    trivial⟩

/-! ## Documents as mappings -/

section mappings

variable {key : Value} {table front back : List (Value × Value)} {members after : List (String × Json)}

theorem entry?_putAll_of_absent (h : ∀ member ∈ after, member.1 ≠ name) :
    Value.entry? name (Entries.putAll table (toEntries after)) = Value.entry? name table := by
  induction after generalizing table with
  | nil => rfl
  | cons member rest ih =>
    obtain ⟨hne, hrest⟩ := List.forall_mem_cons.mp h
    change Value.entry? name (Entries.putAll (Entries.put _ _ table) (toEntries rest)) = _
    rw [ih hrest, Value.entry?_put, if_neg hne]

/-- Of the members of one name, the last one counts. -/
theorem entry?_putAll_of_last (before : List (String × Json)) (h : ∀ member ∈ after, member.1 ≠ name) :
    Value.entry? name (Entries.putAll table (toEntries (before ++ (name, j) :: after))) =
      some j.toValue := by
  induction before generalizing table with
  | nil =>
    change Value.entry? name (Entries.putAll (Entries.put _ _ table) (toEntries after)) = _
    rw [entry?_putAll_of_absent h, Value.entry?_put, if_pos rfl]
  | cons member rest ih => exact ih

/-- The member of an entry, between those of the entries before and after it. -/
theorem exists_member_of_showEntries (h : ShowEntries (front ++ (key, v) :: back) members) :
    ∃ before name tree after, members = before ++ (name, tree) :: after ∧ IsMemberName key name ∧
      Shows v tree ∧ ShowEntries back after := by
  induction front generalizing members with
  | nil =>
    cases h with
    | cons hname hshows hback => exact ⟨[], _, _, _, rfl, hname, hshows, hback⟩
  | cons entry rest ih =>
    cases h with
    | cons _ _ hrest =>
      obtain ⟨before, name, tree, after, rfl, hmember⟩ := ih hrest
      exact ⟨_ :: before, name, tree, after, rfl, hmember⟩

theorem forall_ne_of_showEntries (h : ShowEntries back after)
    (hlast : ∀ entry ∈ back, ¬ IsMemberName entry.1 name) : ∀ member ∈ after, member.1 ≠ name := by
  induction back generalizing after with
  | nil =>
    cases h
    exact fun _ hmember => nomatch hmember
  | cons entry rest ih =>
    obtain ⟨hne, hrest⟩ := List.forall_mem_cons.mp hlast
    cases h with
    | cons hname _ hshow =>
      refine List.forall_mem_cons.mpr ⟨?_, ih hshow hrest⟩
      rintro rfl
      exact hne hname

/-- In the mapping that a shown document is, the attributes stand under the names of their keys. Of the
attributes whose keys have one name, the last one counts. -/
theorem ShowsDocument.exists_entry? {d : Document} (h : ShowsDocument d j) : ∃ top attributes,
    j.toValue = .map top ∧ Value.entry? "meta" top = some (.map attributes) ∧
      ∀ front key v back name, d.attributes = front ++ (key, v) :: back → IsMemberName key name →
        (∀ entry ∈ back, ¬ IsMemberName entry.1 name) →
          ∃ tree, Value.entry? name attributes = some tree.toValue ∧ Shows v tree := by
  obtain ⟨members, trees, rfl, hshow, -⟩ := h.shown
  refine ⟨_, Entries.ofPairs (toEntries members), rfl, ?_, ?_⟩
  · exact entry?_putAll_of_last [("body", .str d.body)] (by simp)
  intro front key v back name hsplit hname hlast
  rw [hsplit] at hshow
  obtain ⟨before, name', tree, after, rfl, hname', hshows, hback⟩ := exists_member_of_showEntries hshow
  obtain rfl : name = name' := by
    rw [← key?_eq_some_iff] at hname hname'
    exact Option.some.inj (hname.symm.trans hname')
  exact ⟨tree, entry?_putAll_of_last before (forall_ne_of_showEntries hback hlast), hshows⟩

end mappings

end Json

namespace CommandLine

/-- The JSON output of a document is the text of its tree. -/
theorem formatted_json_eq (d : Document) : formatted .json none d =
    match d.toJson? with
    | some j => .ok j.text
    | none => .error (.plain .badType) := rfl

/-- What is read from the JSON output of a document is an object that shows it. -/
theorem exists_read?_of_formatted {d : Document} {out : String} (hheld : Yaml.AreHeld d.attributes)
    (h : formatted .json none d = .ok out) :
    ∃ j, Json.read? (out ++ "\n").toList = some j ∧ Json.ShowsDocument d j := by
  rw [formatted_json_eq] at h
  cases hj : d.toJson? with
  | none =>
    rw [hj] at h
    cases h
  | some j =>
    rw [hj] at h
    cases h
    obtain ⟨hshows, hcanonical⟩ := Json.showsDocument_of_toJson? hheld hj
    exact ⟨j, Json.read?_text hcanonical, hshows⟩

open RunAction

theorem ok_of_mapError {ε ε' α : Type} {f : ε → ε'} {outcome : Except ε α} {a : α}
    (h : outcome.mapError f = .ok a) : outcome = .ok a := by
  cases outcome with
  | error fault => cases h
  | ok b =>
    cases h
    rfl

/-- The renderer of a run reads headers in the standard way. -/
theorem leaves_make (options : RenderOptions) (before : Effects) (journal : Journal) :
    (ofAction (Renderer.make options {})).Leaves before journal fun outcome _ =>
      ∀ r, outcome = .ok r → r.readHeader = HeadedText.ofText := by
  intro r hr
  rw [result_ofAction] at hr
  obtain ⟨_, _, -, -, rfl⟩ := Renderer.exists_of_make (ok_of_mapError hr)
  rfl

theorem exists_headed_of_outcome {rendered : Except RenderFault String} {d : Document}
    (h : (match rendered with
      | .error fault => .error fault
      | .ok text => (HeadedText.ofText text).map Document.ofHeaded) = Except.ok d) :
    ∃ text headed, HeadedText.ofText text = .ok headed ∧ d = .ofHeaded headed := by
  cases rendered with
  | error fault => cases h
  | ok text =>
    cases hread : HeadedText.ofText text with
    | error fault =>
      simp only [hread] at h
      cases h
    | ok headed =>
      simp only [hread] at h
      cases h
      exact ⟨text, headed, hread, rfl⟩

/-- The document of a run comes from a text whose header could be read. -/
theorem leaves_renderDocument (s : Surround) (o : Options) (before : Effects) (journal : Journal) :
    (renderDocument s o).Leaves before journal fun outcome _ => ∀ d, outcome = .ok d →
      ∃ text headed, HeadedText.ofText text = .ok headed ∧ d = .ofHeaded headed := by
  unfold renderDocument
  apply (keepsEffects_ofAction _).leaves.bind
  · intro options after _ journal
    apply (leaves_make options after journal).bind
    · intro r after hr journal d hd
      unfold result ExceptT.run at hd
      simp only [bind, StateT.run, StateT.bind] at hd
      rcases hrun : r.render s.files s.clock _ {} journal with ⟨⟨fault | found, store⟩, journal'⟩
      · rw [hrun] at hd
        cases hd
      · rw [hrun] at hd
        cases hd
        have hrender : Renderer.outcomeOf (r.render s.files s.clock
            { template := if o.template = "-" then s.input else o.template }) {} journal = _ :=
          Renderer.outcomeOf_render
        rw [hr r rfl] at hrender
        exact exists_headed_of_outcome (hrender.symm.trans (congrArg (·.1.1) hrun))
    · intro fault after _
      exact nofun
  · intro fault after _
    exact nofun

/-- A run with JSON output that ends well has written a text from which its document is read. -/
theorem exists_document_of_run {s : Surround} {o : Options}
    (hrequest : Request.ofArguments s.args s.files = .ok (.render o)) (hformat : o.format = .json)
    (hsection : o.sectionName.filter (!·.isEmpty) = none) (hcode : (run s).exitCode = 0) :
    ∃ text headed out j, HeadedText.ofText text = .ok headed ∧ IsDelivered s o out (run s).effects ∧
      Json.read? out.toList = some j ∧ Json.ShowsDocument (.ofHeaded headed) j := by
  obtain ⟨outcome, hended, hok⟩ := allOrNothing_run hrequest
  obtain ⟨-, out, hout, -, hdelivered⟩ := hended.resolve_right fun h => by
    obtain ⟨⟨fault, hfault⟩, -⟩ := h
    rw [hok.mp hcode] at hfault
    cases hfault
  have hdocument := leaves_renderDocument s o (initial s) opening
  unfold resultText at hout
  obtain ⟨d, hd, hout⟩ := exists_of_bind_eq_ok hout
  obtain ⟨text, headed, hread, rfl⟩ := hdocument d hd
  obtain ⟨written, hwritten, hout⟩ := exists_of_bind_eq_ok hout
  cases hout
  have hformatted : formatted .json none (.ofHeaded headed) = .ok written := by
    have hsame : formatted o.format o.sectionName (.ofHeaded headed) =
        formatted .json none (.ofHeaded headed) := by
      rw [hformat]
      unfold formatted
      rw [hsection]
      rfl
    rw [← hsame]
    exact ok_of_mapError hwritten
  obtain ⟨j, hj, hshows⟩ := exists_read?_of_formatted (HeadedText.areHeld_attributes hread) hformatted
  exact ⟨text, headed, _, j, hread, hdelivered, hj, hshows⟩

end CommandLine

end PromptTemplates
