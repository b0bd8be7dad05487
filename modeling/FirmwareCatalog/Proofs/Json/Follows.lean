/-
**Decoders and changed contents.**

When the content of a text is changed, the decoded value changes with it.  A decoder follows a
change of contents by a change of values if whatever has the changed content is decoded as the
changed value.  Lists follow item by item.  Records follow field by field; a field that becomes
`null`, or is left out, is followed by what the record is without it.

Main definitions:

* `Json.Follows` — a decoder follows a change of contents;
* `Json.Fate`, `Json.Content.lose` — what becomes of the members of an object, or of the items of an
  array that gives a record;
* `Json.FieldFollows`, `Json.FieldsFollow` — the fields of a record follow;
* `Json.Gives` — all decoded values have a property.

Main results:

* `Json.follows_text`, `Json.follows_unsigned`, `Json.follows_nullAs`, `Json.follows_list`, … — the
  decoders of fields;
* `Json.fieldFollows_optional` — a field with a default;
* `Json.follows_record` — **a record follows the losses of its fields**;
* `Json.gives_record` — what the blank record has and the fields keep, all decoded records have;
* `Json.decode_follows` — whole texts.
-/
import FirmwareCatalog.Json.Record
import FirmwareCatalog.Proofs.Json.Content

set_option relaxedAutoImplicit false
set_option autoImplicit false

namespace FirmwareCatalog.Json

/-! ### Decoders -/

variable {α β ρ : Type}

/-- A decoder follows a change of contents: what it decodes has a content, and whatever has the
changed content is decoded as the changed value. -/
def Follows (decoder : Decoder α) (edit : Content → Content) (change : α → α) : Prop :=
  ∀ node a, decoder node = .ok a → ∃ c, node.content? = some c ∧
    ∀ node', node'.content? = some (edit c) → decoder node' = .ok (change a)

theorem follows_of_iff {decoder : Decoder α} {take : Content → α → Prop}
    (h : ∀ node a, decoder node = .ok a ↔ ∃ c, node.content? = some c ∧ take c a) :
    Follows decoder id id := by
  intro node a ha
  obtain ⟨c, hc, htake⟩ := (h node a).1 ha
  exact ⟨c, hc, fun node' hc' => (h node' a).2 ⟨c, hc', htake⟩⟩

theorem follows_map {decoder : Decoder α} {edit : Content → Content} {change : α → α}
    (h : Follows decoder edit change) {f : α → β} {change' : β → β}
    (hf : ∀ a, f (change a) = change' (f a)) :
    Follows (fun node => (decoder node).map f) edit change' := by
  intro node b hb
  obtain ⟨a, ha, rfl⟩ := map_eq_ok_iff.1 hb
  obtain ⟨c, hc, hfollow⟩ := h node a ha
  exact ⟨c, hc, fun node' hc' => map_eq_ok_iff.2 ⟨change a, hfollow node' hc', hf a⟩⟩

theorem text_eq_ok_iff (expected : Expected) (node : Node) (s : String) :
    text expected node = .ok s ↔ ∃ c, node.content? = some c ∧ c = .string (some s) := by
  cases node with
  | string token =>
      obtain ⟨value, after⟩ := token
      cases value <;> cases after <;> simp [text, Node.content?, StringToken.text?, Except.toOption]
  | _ => simp [text, Node.content?]

/-- So are strings that have a form of their own, if they have that form. -/
theorem formatted_eq_ok_iff (expected : Expected) (readText : String → Except String α)
    (node : Node) (a : α) : formatted expected readText node = .ok a ↔
      ∃ c, node.content? = some c ∧ ∃ s, c = .string (some s) ∧ readText s = .ok a := by
  cases node with
  | string token =>
      obtain ⟨value, after⟩ := token
      cases value with
      | error fault =>
          cases after <;> simp [formatted, Node.content?, StringToken.text?, Except.toOption]
      | ok s =>
          cases after with
          | error fault => simp [formatted, Node.content?, Except.toOption]
          | ok rest =>
              cases hread : readText s <;>
                simp [formatted, Node.content?, StringToken.text?, Except.toOption, hread]
  | _ => simp [formatted, Node.content?]

theorem flag_eq_ok_iff (node : Node) (b : Bool) :
    flag node = .ok b ↔ ∃ c, node.content? = some c ∧ c = .bool b := by
  cases node <;> simp [flag, Node.content?]

/-- Literals are decoded as natural numbers below the bound. -/
theorem unsigned_eq_ok_iff (expected : Expected) (bound : Nat) (node : Node) (n : Nat) :
    unsigned expected bound node = .ok n ↔
      ∃ c, node.content? = some c ∧ ∃ l, c = .number l ∧ l.read = .ok (.natural n) ∧ n < bound := by
  cases node with
  | number l =>
      have hbare (x : Number) := @Numeral.read_bare_eq_ok_iff l x
      have hread : unsigned expected bound (.number l) = .ok n ↔
          l.read = .ok (.natural n) ∧ n < bound := by
        cases hl : l.read with
        | error fault => simp [unsigned, hl]
        | ok x =>
            cases x with
            | natural m =>
                by_cases hm : m < bound
                · simp only [unsigned, hl, if_pos hm, Except.ok.injEq, Number.natural.injEq]
                  exact ⟨fun h => ⟨h, h ▸ hm⟩, fun h => h.1⟩
                · simp only [unsigned, hl, if_neg hm, Except.ok.injEq, Number.natural.injEq,
                    reduceCtorEq, false_iff]
                  exact fun h => hm (h.1 ▸ h.2)
            | _ => simp [unsigned, hl]
      rw [hread, ← hbare]
      simp [Node.content?]
  | _ => simp [unsigned, Node.content?]

theorem follows_text (expected : Expected) : Follows (text expected) id id :=
  follows_of_iff (text_eq_ok_iff expected)

theorem follows_formatted (expected : Expected) (readText : String → Except String α) :
    Follows (formatted expected readText) id id :=
  follows_of_iff (formatted_eq_ok_iff expected readText)

theorem follows_flag : Follows flag id id := follows_of_iff flag_eq_ok_iff

theorem follows_unsigned (expected : Expected) (bound : Nat) :
    Follows (unsigned expected bound) id id :=
  follows_of_iff (unsigned_eq_ok_iff expected bound)

theorem follows_unsigned32 : Follows unsigned32 id id :=
  follows_map (f := UInt32.ofNat) (follows_unsigned .unsigned32 UInt32.size) fun _ => rfl

theorem follows_unsigned64 : Follows unsigned64 id id :=
  follows_map (f := UInt64.ofNat) (follows_unsigned .unsigned64 UInt64.size) fun _ => rfl

/-! ### What may be `null` -/

/-- A decoder that does not take `null`. -/
def RejectsNull (decoder : Decoder α) : Prop := ∀ after a, decoder (.null after) ≠ .ok a

section Nullable

variable {decoder : Decoder α} {edit : Content → Content} {change : α → α}

theorem nullable_of_ne_null {node : Node} (h : ∀ after, node ≠ .null after) :
    nullable decoder node = (decoder node).map some := by
  cases node with
  | null after => exact absurd rfl (h after)
  | _ => rfl

/-- What may be `null` follows, as long as `null` stays what it is. -/
theorem follows_nullable (h : Follows decoder edit change) (hnull : RejectsNull decoder)
    (hedit : edit .null = .null) : Follows (nullable decoder) edit (Option.map change) := by
  intro node o ho
  by_cases hnode : ∃ after, node = .null after
  · obtain ⟨after, rfl⟩ := hnode
    cases ho
    refine ⟨.null, rfl, fun node' hc' => ?_⟩
    rw [hedit] at hc'
    obtain ⟨after', rfl⟩ := Node.eq_null hc'
    rfl
  · rw [nullable_of_ne_null fun after heq => hnode ⟨after, heq⟩] at ho
    cases hread : decoder node with
    | error fault =>
        rw [hread] at ho
        cases ho
    | ok a =>
        rw [hread] at ho
        cases ho
        -- what is not null does not become null, because the decoder would not take it
        obtain ⟨c, hc, hfollow⟩ := h node a hread
        refine ⟨c, hc, fun node' hc' => ?_⟩
        have hread' := hfollow node' hc'
        have hne (after : List Char) : node' ≠ .null after := by
          rintro rfl
          exact hnull after _ hread'
        rw [nullable_of_ne_null hne, hread']
        rfl

/-- What has a default follows, as long as `null` and the default stay what they are. -/
theorem follows_nullAs (h : Follows decoder edit change) (hnull : RejectsNull decoder)
    (hedit : edit .null = .null) {default : α} (hdefault : change default = default) :
    Follows (nullAs default decoder) edit change := by
  refine follows_map (follows_nullable h hnull hedit) fun o => ?_
  cases o with
  | none => exact hdefault.symm
  | some a => rfl

end Nullable

/-! ### Lists -/

def Content.mapItems (edit : Nat → Content → Content) : Content → Content
  | .array items => .array (items.mapIdx edit)
  | c => c

theorem Content.mapItems_id (c : Content) : c.mapItems (fun _ => id) = c := by
  cases c with
  | array items =>
      refine congrArg Content.array (List.ext_getElem (by simp) fun i h h' => ?_)
      simp
  | _ => rfl

/-- Items are followed one by one. -/
theorem items_follow {decoder : Decoder α} : ∀ {items : Items} {as : List α}
    {edit : Nat → Content → Content} {change : Nat → α → α},
    (∀ i, Follows decoder (edit i) (change i)) → items.decode decoder = .ok as →
      ∃ cs, items.content? = some cs ∧ ∀ items' : Items,
        items'.content? = some (cs.mapIdx edit) →
          items'.decode decoder = .ok (as.mapIdx change)
  | .cons start head tail, as, edit, change, h, has => by
      rw [Items.decode] at has
      obtain ⟨a, hhead, has⟩ := bind_eq_ok_iff.1 has
      obtain ⟨as', htail, has⟩ := bind_eq_ok_iff.1 has
      cases has
      obtain ⟨c, hc, hfollow⟩ := h 0 head a hhead
      -- the first item of the tail has the second place, so the changes move up by one
      obtain ⟨cs, hcs, hfollows⟩ := items_follow (fun i => h (i + 1)) htail
      refine ⟨c :: cs, by rw [Items.content?, hc, hcs], fun items' hitems' => ?_⟩
      rw [List.mapIdx_cons] at hitems'
      obtain ⟨start', head', tail', rfl, hhead', htail'⟩ := Items.eq_cons hitems'
      rw [Items.decode, hfollow head' hhead', hfollows tail' htail', List.mapIdx_cons]
      rfl
  | .close after, as, edit, change, h, has => by
      cases has
      refine ⟨[], rfl, fun items' hitems' => ?_⟩
      obtain ⟨after', rfl⟩ := Items.eq_close hitems'
      rfl
  | .stop why, as, edit, change, h, has => nomatch has

/-- **A list is followed item by item.** -/
theorem follows_list {decoder : Decoder α} {edit : Nat → Content → Content}
    {change : Nat → α → α} (h : ∀ i, Follows decoder (edit i) (change i)) :
    Follows (list decoder) (Content.mapItems edit) (List.mapIdx change) := by
  intro node as has
  cases node with
  | array start items =>
      obtain ⟨cs, hcs, hfollows⟩ := items_follow h has
      refine ⟨.array cs, by rw [Node.content?, hcs]; rfl, fun node' hc' => ?_⟩
      obtain ⟨start', items', rfl, hitems'⟩ := Node.eq_array hc'
      exact hfollows items' hitems'
  | _ => cases has

theorem follows_list_id {decoder : Decoder α} (h : Follows decoder id id) :
    Follows (list decoder) id id := by
  have hedit : Content.mapItems (fun _ => id) = id := funext Content.mapItems_id
  have hchange : List.mapIdx (fun _ => id) = (id : List α → List α) :=
    funext fun as => List.ext_getElem (by simp) fun i h h' => by simp
  have hlist := follows_list fun _ => h
  rwa [hedit, hchange] at hlist

/-! ### Records -/

/-- What becomes of a field: it stays, it is set to `null`, or it is left out. -/
inductive Fate where
  | kept
  | nulled
  | dropped
  deriving DecidableEq, Repr

/-- What becomes of each field, by its key. -/
abbrev Fates : Type := String → Fate

namespace Fate

/-- What becomes of a member of an object; one that stays may change. -/
def member? (fate : Fate) (edit : Content → Content) (c : Content) : Option Content :=
  match fate with
  | kept => some (edit c)
  | nulled => some .null
  | dropped => none

/-- What becomes of an item of an array that gives a field.  It cannot be left out, because the
items behind it give other fields. -/
def item (fate : Fate) (edit : Content → Content) (c : Content) : Content :=
  match fate with
  | kept => edit c
  | nulled => .null
  | dropped => .null

/-- What becomes of a value. -/
def value (fate : Fate) (a default : α) : α :=
  match fate with
  | kept => a
  | nulled => default
  | dropped => default

@[simp] theorem value_self (fate : Fate) (a : α) : fate.value a a = a := by cases fate <;> rfl

theorem item_of_member? {fate : Fate} {edit : Content → Content} {c c' : Content}
    (h : fate.member? edit c = some c') : fate.item edit c = c' := by
  cases fate with
  | kept => exact Option.some.inj h
  | nulled => exact Option.some.inj h
  | dropped => cases h

theorem eq_dropped_of_member? {fate : Fate} {edit : Content → Content} {c : Content}
    (h : fate.member? edit c = none) : fate = .dropped := by
  cases fate with
  | kept => cases h
  | nulled => cases h
  | dropped => rfl

theorem item_of_ne_kept {fate : Fate} (h : fate ≠ .kept) (edit : Content → Content) (c : Content) :
    fate.item edit c = .null := by
  cases fate with
  | kept => exact absurd rfl h
  | nulled => rfl
  | dropped => rfl

end Fate

/-- What becomes of the members of an object. -/
def loseMembers (fates : Fates) (edit : String → Content → Content) :
    List (Option String × Content) → List (Option String × Content)
  | [] => []
  | (none, c) :: ms => (none, c) :: loseMembers fates edit ms
  | (some k, c) :: ms =>
    match (fates k).member? (edit k) c with
    | some c' => (some k, c') :: loseMembers fates edit ms
    | none => loseMembers fates edit ms

def loseItems (fates : Fates) (edit : String → Content → Content) :
    List String → List Content → List Content
  | k :: ks, c :: cs => (fates k).item (edit k) c :: loseItems fates edit ks cs
  | _, cs => cs

/-- What becomes of the content of a record with these keys. -/
def Content.lose (keys : List String) (fates : Fates) (edit : String → Content → Content) :
    Content → Content
  | .object ms => .object (loseMembers fates edit ms)
  | .array cs => .array (loseItems fates edit keys cs)
  | c => c

theorem loseMembers_kept (ms : List (Option String × Content)) :
    loseMembers (fun _ => .kept) (fun _ => id) ms = ms := by
  induction ms with
  | nil => rfl
  | cons m ms ih =>
      obtain ⟨k, c⟩ := m
      cases k <;> simp [loseMembers, Fate.member?, ih]

theorem loseItems_kept (ks : List String) : ∀ cs : List Content,
    loseItems (fun _ => .kept) (fun _ => id) ks cs = cs := by
  induction ks with
  | nil => exact fun _ => rfl
  | cons k ks ih =>
      intro cs
      cases cs with
      | nil => rfl
      | cons c cs => simp [loseItems, Fate.item, ih]

theorem Content.lose_kept (keys : List String) :
    Content.lose keys (fun _ => .kept) (fun _ => id) = id := by
  funext c
  cases c <;> simp [Content.lose, loseMembers_kept, loseItems_kept]

/-- A field follows a change of records.  If it stays, its changed content changes the changed
record as its content changes the record.  If it goes, the changed record does not notice, neither
where it is left out nor where it is `null`. -/
structure FieldFollows (f : RecordField ρ) (fate : Fate) (edit : Content → Content)
    (change : ρ → ρ) : Prop where
  content : ∀ node put, f.set node = .ok put → ∃ c, node.content? = some c
  stays : fate = .kept → ∀ node put, f.set node = .ok put → ∀ c, node.content? = some c →
    ∀ node', node'.content? = some (edit c) →
      ∃ put', f.set node' = .ok put' ∧ ∀ r, change (put r) = put' (change r)
  goes : fate ≠ .kept → f.required = false ∧
    (∀ node put, f.set node = .ok put → ∀ r, change (put r) = change r) ∧
    ∀ after, ∃ put, f.set (.null after) = .ok put ∧ ∀ r, put (change r) = change r

/-- All these fields follow, each by its key. -/
def FieldsFollow (fields : List (RecordField ρ)) (fates : Fates) (edit : String → Content → Content)
    (change : ρ → ρ) : Prop :=
  ∀ f ∈ fields, FieldFollows f (fates f.key) (edit f.key) change

section Field

variable {decoder : Decoder α} {edit : Content → Content} {change : α → α} {changeAll : ρ → ρ}
variable {key : String} {put : α → ρ → ρ}

/-- A field that stays follows where its decoder does. -/
theorem fieldFollows_kept {required positional : Bool} (h : Follows decoder edit change)
    (hput : ∀ a r, changeAll (put a r) = put (change a) (changeAll r)) :
    FieldFollows ⟨key, fun node => (decoder node).map put, required, positional⟩ .kept edit
      changeAll where
  content := by
      intro node put₀ hset
      obtain ⟨a, ha, -⟩ := map_eq_ok_iff.1 hset
      obtain ⟨c, hc, -⟩ := h node a ha
      exact ⟨c, hc⟩
  stays := by
      intro _ node put₀ hset c hc node' hc'
      obtain ⟨a, ha, rfl⟩ := map_eq_ok_iff.1 hset
      obtain ⟨c₀, hc₀, hfollow⟩ := h node a ha
      obtain rfl : c₀ = c := Option.some.inj (hc₀.symm.trans hc)
      exact ⟨_, map_eq_ok_iff.2 ⟨change a, hfollow node' hc', rfl⟩, hput a⟩
  goes := fun hgone => absurd rfl hgone

/-- **A field with a default follows whatever becomes of it**, if `null` stands for the default. -/
theorem fieldFollows_optional {fate : Fate} {default : α} (h : Follows decoder edit change)
    (hnull : ∀ after, decoder (.null after) = .ok default)
    (hput : ∀ a r, changeAll (put a r) = put (fate.value (change a) default) (changeAll r))
    (hget : ∀ r, ∃ a, put a r = r) :
    FieldFollows (.optional key decoder put) fate edit changeAll := by
  by_cases hfate : fate = .kept
  · subst hfate
    exact fieldFollows_kept h hput
  have hvalue (a : α) : fate.value a default = default := by
    cases fate with
    | kept => exact absurd rfl hfate
    | nulled => rfl
    | dropped => rfl
  -- what the changed record has in the field is already the default
  have hdefault (r : ρ) : put default (changeAll r) = changeAll r := by
    obtain ⟨a, ha⟩ := hget r
    rw [← hvalue (change a), ← hput a r, ha]
  refine ⟨fun node put₀ hset => ?_, fun hkept => absurd hkept hfate, fun _ => ⟨rfl, ?_, ?_⟩⟩
  · obtain ⟨a, ha, -⟩ := map_eq_ok_iff.1 hset
    obtain ⟨c, hc, -⟩ := h node a ha
    exact ⟨c, hc⟩
  · intro node put₀ hset r
    obtain ⟨a, ha, rfl⟩ := map_eq_ok_iff.1 hset
    rw [hput, hvalue, hdefault]
  · intro after
    exact ⟨_, map_eq_ok_iff.2 ⟨default, hnull after, rfl⟩, hdefault⟩

variable {fates : Fates} {edits : String → Content → Content} {f : RecordField ρ}
variable {fields : List (RecordField ρ)}

/-- **A field that is given again, as what has become of it, does to the changed record what it did
to the record**, whether it stays or is `null` now. -/
theorem FieldFollows.set_again {fate : Fate} {node node' : Node} {c : Content} {put : ρ → ρ}
    (h : FieldFollows f fate edit changeAll) (hput : f.set node = .ok put)
    (hc : node.content? = some c) (hc' : node'.content? = some (fate.item edit c)) :
    ∃ put', f.set node' = .ok put' ∧ ∀ r, changeAll (put r) = put' (changeAll r) := by
  by_cases hfate : fate = .kept
  · subst hfate
    exact h.stays rfl node put hput c hc node' hc'
  · obtain ⟨-, hignored, hnull⟩ := h.goes hfate
    rw [Fate.item_of_ne_kept hfate] at hc'
    obtain ⟨after, rfl⟩ := Node.eq_null hc'
    obtain ⟨put', hput', hsteady⟩ := hnull after
    exact ⟨put', hput', fun r => by rw [hignored node put hput, hsteady]⟩

theorem FieldsFollow.nil : FieldsFollow [] fates edits changeAll := List.forall_mem_nil _

theorem FieldsFollow.cons (h : FieldFollows f (fates f.key) (edits f.key) changeAll)
    (hs : FieldsFollow fields fates edits changeAll) :
    FieldsFollow (f :: fields) fates edits changeAll := List.forall_mem_cons.2 ⟨h, hs⟩

end Field

section Record

variable {schema : Schema ρ} {fates : Fates} {edit : String → Content → Content} {change : ρ → ρ}

theorem Schema.of_field? {k : String} {f : RecordField ρ} (h : schema.field? k = some f) :
    f ∈ schema.fields ∧ f.key = k :=
  ⟨List.mem_of_find?_eq_some h, by simpa using List.find?_some h⟩

/-- A key can be used if it has a text, and no field of that name has been seen. -/
theorem keyFault?_eq_ok_iff {key : StringToken} {known : String → Bool} {seen : List String}
    {k : String} : keyFault? key known seen = .ok k ↔
      key.text? = some k ∧ ¬ (known k = true ∧ k ∈ seen) := by
  obtain ⟨value, after⟩ := key
  cases value with
  | error fault => cases after <;> simp [keyFault?, StringToken.text?]
  | ok s =>
      cases after with
      | error fault => simp [keyFault?, StringToken.text?]
      | ok rest =>
          by_cases hrepeated : known s = true ∧ s ∈ seen
          · have hfault : (known s && seen.contains s) = true := by simpa using hrepeated
            simp only [keyFault?, StringToken.text?, hfault, if_true, reduceCtorEq,
              Option.some.injEq, false_iff]
            rintro ⟨rfl, hfresh⟩
            exact hfresh hrepeated
          · have hfine : (known s && seen.contains s) = false := by simpa using hrepeated
            simp only [keyFault?, StringToken.text?, hfine, Bool.false_eq_true, if_false,
              Except.ok.injEq, Option.some.injEq]
            exact ⟨fun h => ⟨h, h ▸ hrepeated⟩, fun h => h.1⟩

/-- **What one member does.**  One that is no field is passed over; one that is has not come before
and changes the record. -/
theorem decode_cons_eq_ok_iff {key : StringToken} {value : Node} {tail : Members}
    {seen : List String} {r v : ρ} :
    (Members.cons key value tail).decode schema seen r = .ok v ↔ ∃ k, key.text? = some k ∧
      ((schema.field? k = none ∧ value.skip = .ok () ∧ tail.decode schema seen r = .ok v) ∨
        ∃ f put, schema.field? k = some f ∧ k ∉ seen ∧ f.set value = .ok put ∧
          tail.decode schema (k :: seen) (put r) = .ok v) := by
  rw [Members.decode, bind_eq_ok_iff]
  constructor
  · rintro ⟨k, hkey, h⟩
    obtain ⟨htext, hfresh⟩ := keyFault?_eq_ok_iff.1 hkey
    refine ⟨k, htext, ?_⟩
    cases hfield : schema.field? k with
    | none =>
        rw [hfield] at h
        obtain ⟨hskip, htail⟩ := check_eq_ok_iff.1 h
        exact Or.inl ⟨rfl, hskip, htail⟩
    | some f =>
        rw [hfield] at h
        obtain ⟨put, hput, htail⟩ := bind_eq_ok_iff.1 h
        exact Or.inr ⟨f, put, rfl, fun hseen => hfresh ⟨by simp [hfield], hseen⟩, hput, htail⟩
  · rintro ⟨k, htext, ⟨hfield, hskip, htail⟩ | ⟨f, put, hfield, hfresh, hput, htail⟩⟩
    · refine ⟨k, keyFault?_eq_ok_iff.2 ⟨htext, by simp [hfield]⟩, ?_⟩
      simp only [hfield]
      exact check_eq_ok_iff.2 ⟨hskip, htail⟩
    · refine ⟨k, keyFault?_eq_ok_iff.2 ⟨htext, fun h => hfresh h.2⟩, ?_⟩
      simp only [hfield]
      exact bind_eq_ok_iff.2 ⟨put, hput, htail⟩

/-- What the members of the changed object have given: no field that the members before the change
have not given, and every one of those that has to be given. -/
structure SeenFollows (schema : Schema ρ) (seen seen' : List String) : Prop where
  sub : ∀ k ∈ seen', k ∈ seen
  required : ∀ f ∈ schema.fields, f.required = true → f.key ∈ seen → f.key ∈ seen'

namespace SeenFollows

variable {seen seen' : List String}

theorem both (h : SeenFollows schema seen seen') (k : String) :
    SeenFollows schema (k :: seen) (k :: seen') where
  sub := List.cons_subset_cons k h.sub
  required := by
    intro f hf hrequired hmem
    rcases List.mem_cons.1 hmem with rfl | hmem
    · exact List.mem_cons_self
    · exact List.mem_cons_of_mem _ (h.required f hf hrequired hmem)

theorem leave (h : SeenFollows schema seen seen') {k : String}
    (hfree : ∀ f ∈ schema.fields, f.key = k → f.required = false) :
    SeenFollows schema (k :: seen) seen' where
  sub := fun l hl => List.mem_cons_of_mem k (h.sub l hl)
  required := by
    intro f hf hrequired hmem
    rcases List.mem_cons.1 hmem with heq | hmem
    · rw [hfree f hf heq] at hrequired
      cases hrequired
    · exact h.required f hf hrequired hmem

theorem missing?_eq_none (h : SeenFollows schema seen seen') (hgiven : schema.missing? seen = none) :
    schema.missing? seen' = none :=
  Schema.missing?_eq_none_iff.2 fun f hf hrequired =>
    h.required f hf hrequired (Schema.missing?_eq_none_iff.1 hgiven f hf hrequired)

end SeenFollows

/-- A member that is no field is passed over, whether it stays or not. -/
theorem decode_extra_follows {k : String} {c : Content} {ms : List (Option String × Content)}
    {members' : Members} {seen' : List String} {r v : ρ} (hfield : schema.field? k = none)
    (hmembers' : members'.content? = some (loseMembers fates edit ((some k, c) :: ms)))
    (htail : ∀ tail' : Members, tail'.content? = some (loseMembers fates edit ms) →
      tail'.decode schema seen' r = .ok v) :
    members'.decode schema seen' r = .ok v := by
  rw [loseMembers] at hmembers'
  cases hmember : (fates k).member? (edit k) c with
  | none =>
      rw [hmember] at hmembers'
      exact htail members' hmembers'
  | some c' =>
      rw [hmember] at hmembers'
      obtain ⟨key', value', tail', rfl, htext', hvalue', htail'⟩ := Members.eq_cons hmembers'
      exact decode_cons_eq_ok_iff.2 ⟨k, htext', Or.inl ⟨hfield,
        (Node.skip_eq_ok_iff value').2 ⟨c', hvalue'⟩, htail tail' htail'⟩⟩

/-- A member that is a field changes the changed record as it changed the record.  Where it is left
out, the rest starts from what has been seen without it. -/
theorem decode_field_follows (hfields : FieldsFollow schema.fields fates edit change)
    {f : RecordField ρ} {value : Node} {put : ρ → ρ} {c : Content}
    {ms : List (Option String × Content)} {members' : Members} {seen seen' : List String} {r v : ρ}
    (hfield : schema.field? f.key = some f) (hfresh : f.key ∉ seen) (hput : f.set value = .ok put)
    (hc : value.content? = some c)
    (hmembers' : members'.content? = some (loseMembers fates edit ((some f.key, c) :: ms)))
    (hseen : SeenFollows schema seen seen')
    (htail : ∀ tail' : Members, tail'.content? = some (loseMembers fates edit ms) →
      ∀ seen', SeenFollows schema (f.key :: seen) seen' →
        tail'.decode schema seen' (change (put r)) = .ok v) :
    members'.decode schema seen' (change r) = .ok v := by
  have hf := hfields f (Schema.of_field? hfield).1
  rw [loseMembers] at hmembers'
  cases hmember : (fates f.key).member? (edit f.key) c with
  | none =>
      -- the field is left out, and what it put does not show in the changed record
      have hfate := Fate.eq_dropped_of_member? hmember
      have hgone : fates f.key ≠ .kept := by rw [hfate]; decide
      have hfree : ∀ g ∈ schema.fields, g.key = f.key → g.required = false :=
        fun g hg heq => ((hfields g hg).goes (heq ▸ hgone)).1
      rw [hmember] at hmembers'
      rw [← (hf.goes hgone).2.1 value put hput r]
      exact htail members' hmembers' seen' (hseen.leave hfree)
  | some c' =>
      rw [hmember] at hmembers'
      obtain ⟨key', value', tail', rfl, htext', hvalue', htail'⟩ := Members.eq_cons hmembers'
      rw [← Fate.item_of_member? hmember] at hvalue'
      obtain ⟨put', hput', hchange⟩ := hf.set_again hput hc hvalue'
      have hdecode := htail tail' htail' (f.key :: seen') (hseen.both f.key)
      rw [hchange r] at hdecode
      exact decode_cons_eq_ok_iff.2 ⟨f.key, htext', Or.inr
        ⟨f, put', hfield, fun h' => hfresh (hseen.sub _ h'), hput', hdecode⟩⟩

/-- **The members of an object are followed one by one**, from any record that has changed in the
same way and from what has been given of it, by induction on the members. -/
theorem members_follow (hfields : FieldsFollow schema.fields fates edit change) :
    ∀ {members : Members} {seen : List String} {r v : ρ},
      members.decode schema seen r = .ok v →
        ∃ ms, members.content? = some ms ∧ ∀ members' : Members,
          members'.content? = some (loseMembers fates edit ms) → ∀ seen' : List String,
            SeenFollows schema seen seen' →
              members'.decode schema seen' (change r) = .ok (change v)
  | .cons key value tail, seen, r, v, h => by
      obtain ⟨k, htext, hmember⟩ := decode_cons_eq_ok_iff.1 h
      rcases hmember with ⟨hfield, hskip, htail⟩ | ⟨f, put, hfield, hfresh, hput, htail⟩
      · obtain ⟨c, hc⟩ := (Node.skip_eq_ok_iff value).1 hskip
        obtain ⟨ms, hms, ih⟩ := members_follow hfields htail
        refine ⟨(some k, c) :: ms, by rw [Members.content?, hc, hms, htext], ?_⟩
        intro members' hmembers' seen' hseen
        exact decode_extra_follows hfield hmembers' fun tail' htail' => ih tail' htail' seen' hseen
      · obtain ⟨hmem, rfl⟩ := Schema.of_field? hfield
        obtain ⟨c, hc⟩ := (hfields f hmem).content value put hput
        obtain ⟨ms, hms, ih⟩ := members_follow hfields htail
        refine ⟨(some f.key, c) :: ms, by rw [Members.content?, hc, hms, htext], ?_⟩
        intro members' hmembers' seen' hseen
        exact decode_field_follows hfields hfield hfresh hput hc hmembers' hseen ih
  | .close after, seen, r, v, h => by
      rw [Members.decode] at h
      cases hmissing : schema.missing? seen with
      | some f =>
          rw [hmissing] at h
          cases h
      | none =>
          rw [hmissing] at h
          cases h
          refine ⟨[], rfl, fun members' hmembers' seen' hseen => ?_⟩
          obtain ⟨after', rfl⟩ := Members.eq_close hmembers'
          rw [Members.decode, hseen.missing?_eq_none hmissing]
  | .stop why, seen, r, v, h => nomatch h
  | .cut key, seen, r, v, h => by
      rw [Members.decode] at h
      obtain ⟨_, _, hrest⟩ := bind_eq_ok_iff.1 h
      cases hafter : key.after <;> simp [hafter] at hrest

/-- The items of an array that gives a record are followed one by one as well. -/
theorem fields_follow {name : String} {total : Nat} : ∀ {fs : List (RecordField ρ)} {items : Items}
    {r v : ρ}, FieldsFollow fs fates edit change →
      items.fields name total fs r = .ok v →
        ∃ cs, items.content? = some cs ∧ ∀ items' : Items,
          items'.content? = some (loseItems fates edit (fs.map (·.key)) cs) →
            items'.fields name total fs (change r) = .ok (change v)
  | [], items, r, v, _, h => by
      cases items with
      | close after =>
          cases h
          refine ⟨[], rfl, fun items' hitems' => ?_⟩
          obtain ⟨after', rfl⟩ := Items.eq_close hitems'
          rfl
      | cons start head tail => cases h
      | stop why => cases why <;> cases h
  | f :: fs, .cons start head tail, r, v, hfields, h => by
      rw [Items.fields] at h
      obtain ⟨put, hput, htail⟩ := bind_eq_ok_iff.1 h
      obtain ⟨hf, hrest⟩ := List.forall_mem_cons.1 hfields
      obtain ⟨c, hc⟩ := hf.content head put hput
      obtain ⟨cs, hcs, ih⟩ := fields_follow hrest htail
      refine ⟨c :: cs, by rw [Items.content?, hc, hcs], fun items' hitems' => ?_⟩
      rw [List.map_cons, loseItems] at hitems'
      obtain ⟨start', head', tail', rfl, hhead', htail'⟩ := Items.eq_cons hitems'
      obtain ⟨put', hput', hchange⟩ := hf.set_again hput hc hhead'
      have hfields' := ih tail' htail'
      rw [hchange r] at hfields'
      rw [Items.fields]
      exact bind_eq_ok_iff.2 ⟨put', hput', hfields'⟩
  | f :: fs, .close after, r, v, _, h => by
      rw [Items.fields] at h
      cases hpositional : (f :: fs).findIdx? (·.positional) with
      | some i =>
          rw [hpositional] at h
          cases h
      | none =>
          rw [hpositional] at h
          cases h
          refine ⟨[], rfl, fun items' hitems' => ?_⟩
          obtain ⟨after', rfl⟩ := Items.eq_close hitems'
          rw [Items.fields, hpositional]
  | _ :: _, .stop _, _, _, _, h => nomatch h

/-- **A record follows the losses of its fields**, in both of its written forms. -/
theorem follows_record (hfields : FieldsFollow schema.fields fates edit change)
    (hblank : change schema.blank = schema.blank) :
    Follows (record schema) (Content.lose (schema.fields.map (·.key)) fates edit) change := by
  intro node v hv
  cases node with
  | object start members =>
      obtain ⟨ms, hms, hfollow⟩ := members_follow hfields hv
      refine ⟨.object ms, by rw [Node.content?, hms]; rfl, fun node' hc' => ?_⟩
      obtain ⟨start', members', rfl, hmembers'⟩ := Node.eq_object hc'
      have h := hfollow members' hmembers' [] ⟨fun _ hk => hk, fun _ _ _ hk => hk⟩
      rwa [hblank] at h
  | array start items =>
      obtain ⟨cs, hcs, hfollow⟩ := fields_follow hfields hv
      refine ⟨.array cs, by rw [Node.content?, hcs]; rfl, fun node' hc' => ?_⟩
      obtain ⟨start', items', rfl, hitems'⟩ := Node.eq_array hc'
      have h := hfollow items' hitems'
      rwa [hblank] at h
  | _ => cases hv

theorem follows_record_id
    (hfields : FieldsFollow schema.fields (fun _ => .kept) (fun _ => id) id) :
    Follows (record schema) id id := by
  have hrecord : Follows (record schema)
      (Content.lose (schema.fields.map (·.key)) (fun _ => .kept) fun _ => id) id :=
    follows_record hfields rfl
  rwa [Content.lose_kept] at hrecord

end Record

/-! ### What all decoded values have -/

/-- All values that a decoder gives have a property. -/
def Gives (decoder : Decoder α) (P : α → Prop) : Prop := ∀ node a, decoder node = .ok a → P a

/-- The items of a list have what the values of their decoder have. -/
theorem gives_list {decoder : Decoder α} {P : α → Prop} (h : Gives decoder P) :
    Gives (list decoder) fun as => ∀ a ∈ as, P a := by
  have hitems : ∀ {items : Items} {as : List α}, items.decode decoder = .ok as → ∀ a ∈ as, P a := by
    intro items as
    induction as generalizing items with
    | nil => exact fun _ => List.forall_mem_nil _
    | cons a as ih =>
        intro hdecode
        cases items with
        | cons start head tail =>
            rw [Items.decode, bind_eq_ok_iff] at hdecode
            obtain ⟨b, hb, hrest⟩ := hdecode
            obtain ⟨bs, hbs, heq⟩ := bind_eq_ok_iff.1 hrest
            cases heq
            exact List.forall_mem_cons.2 ⟨h head _ hb, ih hbs⟩
        | close after => cases hdecode
        | stop why => cases hdecode
  intro node as has
  cases node with
  | array start items => exact hitems has
  | _ => cases has

/-- A field leaves records with a property when it is set. -/
def RecordField.Keeps (f : RecordField ρ) (P : ρ → Prop) : Prop :=
  ∀ node put, f.set node = .ok put → ∀ r, P r → P (put r)

theorem RecordField.keeps_of_put {decoder : Decoder α} {Q : α → Prop} {P : ρ → Prop}
    {f : RecordField ρ} {put : α → ρ → ρ} (hset : f.set = fun node => (decoder node).map put)
    (hgives : Gives decoder Q) (hput : ∀ a, Q a → ∀ r, P r → P (put a r)) : f.Keeps P := by
  intro node put' h
  rw [hset] at h
  obtain ⟨a, ha, rfl⟩ := map_eq_ok_iff.1 h
  exact hput a (hgives node a ha)

section Given

variable {schema : Schema ρ} {P : ρ → Prop}

/-- The members of an object keep what each field keeps. -/
theorem members_keep (hfields : ∀ f ∈ schema.fields, f.Keeps P) : ∀ {members : Members}
    {seen : List String} {r v : ρ}, members.decode schema seen r = .ok v → P r → P v
  | .cons key value tail, seen, r, v, h, hr => by
      obtain ⟨k, -, ⟨-, -, htail⟩ | ⟨f, put, hfield, -, hput, htail⟩⟩ := decode_cons_eq_ok_iff.1 h
      · exact members_keep hfields htail hr
      · have hkeeps := hfields f (Schema.of_field? hfield).1
        exact members_keep hfields htail (hkeeps value put hput r hr)
  | .close after, seen, r, v, h, hr => by
      rw [Members.decode] at h
      cases hmissing : schema.missing? seen with
      | some f =>
          rw [hmissing] at h
          cases h
      | none =>
          rw [hmissing] at h
          cases h
          exact hr
  | .stop why, seen, r, v, h, _ => nomatch h
  | .cut key, seen, r, v, h, _ => by
      rw [Members.decode] at h
      obtain ⟨_, _, hrest⟩ := bind_eq_ok_iff.1 h
      cases hafter : key.after <;> simp [hafter] at hrest

/-- So do the items of an array. -/
theorem items_keep {name : String} {total : Nat} : ∀ {fs : List (RecordField ρ)} {items : Items}
    {r v : ρ}, (∀ f ∈ fs, f.Keeps P) → items.fields name total fs r = .ok v → P r → P v
  | [], items, r, v, _, h, hr => by
      cases items with
      | close after =>
          cases h
          exact hr
      | cons start head tail => cases h
      | stop why => cases why <;> cases h
  | f :: fs, .cons start head tail, r, v, hfields, h, hr => by
      rw [Items.fields] at h
      obtain ⟨put, hput, htail⟩ := bind_eq_ok_iff.1 h
      obtain ⟨hf, hrest⟩ := List.forall_mem_cons.1 hfields
      exact items_keep hrest htail (hf head put hput r hr)
  | f :: fs, .close after, r, v, _, h, hr => by
      rw [Items.fields] at h
      cases hpositional : (f :: fs).findIdx? (·.positional) with
      | some i =>
          rw [hpositional] at h
          cases h
      | none =>
          rw [hpositional] at h
          cases h
          exact hr
  | _ :: _, .stop _, _, _, _, h, _ => nomatch h

/-- **All decoded records have what the blank one has and the fields keep.** -/
theorem gives_record (hblank : P schema.blank) (hfields : ∀ f ∈ schema.fields, f.Keeps P) :
    Gives (record schema) P := by
  intro node v hv
  cases node with
  | object start members => exact members_keep hfields hv hblank
  | array start items => exact items_keep hfields hv hblank
  | _ => cases hv

end Given

/-! ### Whole texts -/

theorem gives_decode {decoder : Decoder α} {P : α → Prop} (h : Gives decoder P) {s : String} {a : α}
    (hs : decode decoder s = .ok a) : P a := h _ a (decode_eq_ok_iff.1 hs).1

/-- **A text that is decoded has a content, and every text that has the changed content is decoded
as the changed value.** -/
theorem decode_follows {decoder : Decoder α} {edit : Content → Content} {change : α → α}
    (h : Follows decoder edit change) {s : String} {a : α} (hs : decode decoder s = .ok a) :
    ∃ c, content? s = some c ∧
      ∀ s', content? s' = some (edit c) → decode decoder s' = .ok (change a) := by
  obtain ⟨ha, hwhole⟩ := decode_eq_ok_iff.1 hs
  obtain ⟨c, hc, hfollow⟩ := h _ a ha
  refine ⟨c, content?_eq_some_iff.2 ⟨hc, hwhole⟩, fun s' hs' => ?_⟩
  obtain ⟨hc', hwhole'⟩ := content?_eq_some_iff.1 hs'
  exact decode_eq_ok_iff.2 ⟨hfollow _ hc', hwhole'⟩

end FirmwareCatalog.Json
