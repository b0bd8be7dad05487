/-
**What a record takes from its content.**

Whether a text is decoded depends on nothing but its content, and so does the value.  A decoder
takes a content for a value if it decodes a tree with that content as the value.  For lists this
comes down to the items, and for records to the members that have a field: one after the other, each
changes the record, none has come before, and none is missing.  Members without a field are passed
over.

A record does not depend on the order of its members, because what its fields change are different
parts of it.  The step is the exchange of two members, and the rest is an induction on the
permutation.

Main definitions:

* `Json.Takes` — what a decoder takes a content for;
* `Json.Schema.Makes`, `Json.MakesInOrder` — the members of an object, and the items of an array,
  make a record;
* `Json.Schema.IsRegular` — the fields go by contents, and change different parts of a record.

Main results:

* `Json.takes_list_iff`, `Json.takes_object_iff`, `Json.takes_array_iff` — lists, and records in both
  of their written forms;
* `Json.Schema.Makes.perm` — **the order of the members does not matter**;
* `Json.Schema.not_makes_of_repeated` — a field that is given twice is refused;
* `Json.takes_array_iff_object` — an array is a record exactly as the object that gives its items
  under the keys of the fields.
-/
import Mathlib.Data.List.Forall2
import Mathlib.Data.List.Pairwise
import FirmwareCatalog.Proofs.Json.Fields
import FirmwareCatalog.Proofs.Json.Follows
import FirmwareCatalog.Proofs.Json.Grammar

set_option relaxedAutoImplicit false
set_option autoImplicit false

namespace FirmwareCatalog.Json

variable {α β ρ : Type}

/-! ### What a decoder takes a content for -/

/-- The content of a tree. -/
def Content.IsSaid (c : Content) : Prop := ∃ node : Node, node.content? = some c

/-- A decoder takes a content for a value. -/
def Takes (decoder : Decoder α) (c : Content) (a : α) : Prop :=
  ∃ node : Node, node.content? = some c ∧ decoder node = .ok a

theorem IsTextOf.isSaid {s : String} {c : Content} (h : IsTextOf s c) : c.IsSaid :=
  ⟨_, (content?_eq_some_iff.1 (content?_eq_some_iff_isTextOf.2 h)).1⟩

theorem IsTextOf.unique {s : String} {c c' : Content} (h : IsTextOf s c) (h' : IsTextOf s c') :
    c = c' := by
  rw [← content?_eq_some_iff_isTextOf] at h h'
  exact Option.some.inj (h.symm.trans h')

section Takes

variable {decoder : Decoder α} {node : Node} {c : Content} {a : α} {s : String}

theorem Takes.isSaid (h : Takes decoder c a) : c.IsSaid := by
  obtain ⟨node, hc, -⟩ := h
  exact ⟨node, hc⟩

theorem Follows.takes_iff (h : Follows decoder id id) (hc : node.content? = some c) :
    Takes decoder c a ↔ decoder node = .ok a := by
  constructor
  · rintro ⟨node', hc', ha⟩
    obtain ⟨c', hc'', hfollow⟩ := h node' a ha
    obtain rfl : c = c' := Option.some.inj (hc'.symm.trans hc'')
    exact hfollow node hc
  · exact fun ha => ⟨node, hc, ha⟩

theorem Follows.takes_unique (h : Follows decoder id id) {a' : α} (ha : Takes decoder c a)
    (ha' : Takes decoder c a') : a = a' := by
  obtain ⟨node, hc, hnode⟩ := ha
  exact Except.ok.inj (hnode.symm.trans ((h.takes_iff hc).1 ha'))

/-- **Every text of a content is decoded as what the decoder takes the content for.** -/
theorem Follows.decode_iff (h : Follows decoder id id) (hs : IsTextOf s c) :
    decode decoder s = .ok a ↔ Takes decoder c a := by
  obtain ⟨hc, hwhole⟩ := content?_eq_some_iff.1 (content?_eq_some_iff_isTextOf.2 hs)
  rw [decode_eq_ok_iff, h.takes_iff hc]
  exact and_iff_left hwhole

theorem Follows.exists_isTextOf (h : Follows decoder id id) (hs : decode decoder s = .ok a) :
    ∃ c, IsTextOf s c ∧ Takes decoder c a := by
  obtain ⟨c, hc, -⟩ := decode_follows h hs
  have htext := content?_eq_some_iff_isTextOf.1 hc
  exact ⟨c, htext, (h.decode_iff htext).1 hs⟩

end Takes

/-! ### Fields -/

section Fields

variable {decoder : Decoder α} {c : Content} {a default : α}

theorem takes_map_iff {f : α → β} {b : β} :
    Takes (fun node => (decoder node).map f) c b ↔ ∃ a, Takes decoder c a ∧ f a = b := by
  constructor
  · rintro ⟨node, hc, hb⟩
    obtain ⟨a, ha, hf⟩ := map_eq_ok_iff.1 hb
    exact ⟨a, ⟨node, hc, ha⟩, hf⟩
  · rintro ⟨a, ⟨node, hc, ha⟩, hf⟩
    exact ⟨node, hc, map_eq_ok_iff.2 ⟨a, ha, hf⟩⟩

/-- What has a default is `null` for it, or given. -/
theorem takes_nullAs_iff :
    Takes (nullAs default decoder) c a ↔
      (c = .null ∧ a = default) ∨ (c ≠ .null ∧ Takes decoder c a) := by
  have hgiven {node : Node} (hne : ∀ after, node ≠ .null after) :
      nullAs default decoder node = .ok a ↔ decoder node = .ok a := by
    rw [nullAs, nullable_of_ne_null hne]
    cases decoder node <;> simp [Except.map]
  constructor
  · rintro ⟨node, hc, ha⟩
    by_cases hnull : c = .null
    · subst hnull
      obtain ⟨after, rfl⟩ := Node.eq_null hc
      cases ha
      exact Or.inl ⟨rfl, rfl⟩
    · have hne : ∀ after, node ≠ .null after := by
        rintro after rfl
        cases hc
        exact hnull rfl
      exact Or.inr ⟨hnull, node, hc, (hgiven hne).1 ha⟩
  · rintro (⟨rfl, rfl⟩ | ⟨hnull, node, hc, ha⟩)
    · exact ⟨.null [], rfl, rfl⟩
    · have hne : ∀ after, node ≠ .null after := by
        rintro after rfl
        cases hc
        exact hnull rfl
      exact ⟨node, hc, (hgiven hne).2 ha⟩

end Fields

/-! ### Lists -/

/-- Values are taken from contents one by one exactly if some items have these contents and are decoded
as the values. -/
theorem forall₂_takes_iff_items {decoder : Decoder α} {cs : List Content} :
    ∀ {as : List α}, List.Forall₂ (Takes decoder) cs as ↔
      ∃ items : Items, items.content? = some cs ∧ items.decode decoder = .ok as := by
  induction cs with
  | nil =>
      intro as
      rw [List.forall₂_nil_left_iff]
      constructor
      · rintro rfl
        exact ⟨.close [], rfl, rfl⟩
      · rintro ⟨items, hcs, has⟩
        obtain ⟨after, rfl⟩ := Items.eq_close hcs
        cases has
        rfl
  | cons c cs ih =>
      intro as
      rw [List.forall₂_cons_left_iff]
      constructor
      · rintro ⟨a, as, ⟨node, hc, ha⟩, htail, rfl⟩
        obtain ⟨items, hcs, has⟩ := ih.1 htail
        refine ⟨.cons [] node items, by rw [Items.content?, hc, hcs], ?_⟩
        rw [Items.decode, ha, has]
        rfl
      · rintro ⟨items, hcs, has⟩
        obtain ⟨start, head, tail, rfl, hhead, htail⟩ := Items.eq_cons hcs
        rw [Items.decode] at has
        obtain ⟨a, ha, has⟩ := bind_eq_ok_iff.1 has
        obtain ⟨as, htail', has⟩ := bind_eq_ok_iff.1 has
        cases has
        exact ⟨a, as, ⟨head, hhead, ha⟩, ih.2 ⟨tail, htail, htail'⟩, rfl⟩

/-- **A list is taken item by item.** -/
theorem takes_list_iff {decoder : Decoder α} {c : Content} {as : List α} :
    Takes (list decoder) c as ↔ ∃ cs, c = .array cs ∧ List.Forall₂ (Takes decoder) cs as := by
  constructor
  · rintro ⟨node, hc, has⟩
    cases node with
    | array start items =>
        obtain ⟨cs, hcs, rfl⟩ := Option.map_eq_some_iff.1 hc
        exact ⟨cs, rfl, forall₂_takes_iff_items.2 ⟨items, hcs, has⟩⟩
    | _ => cases has
  · rintro ⟨cs, rfl, h⟩
    obtain ⟨items, hcs, has⟩ := forall₂_takes_iff_items.1 h
    exact ⟨.array [] items, by rw [Node.content?, hcs]; rfl, has⟩

theorem takes_list_array_iff {decoder : Decoder α} {cs : List Content} {as : List α} :
    Takes (list decoder) (.array cs) as ↔ List.Forall₂ (Takes decoder) cs as := by
  simp [takes_list_iff]

theorem exists_takes_item {decoder : Decoder α} {before after : List Content} {c : Content}
    {as : List α} (h : List.Forall₂ (Takes decoder) (before ++ c :: after) as) :
    ∃ a, Takes decoder c a := by
  induction before generalizing as with
  | nil =>
      obtain ⟨a, as, ha, -, rfl⟩ := List.forall₂_cons_left_iff.1 h
      exact ⟨a, ha⟩
  | cons d before ih =>
      obtain ⟨a, as, -, htail, rfl⟩ := List.forall₂_cons_left_iff.1 h
      exact ih htail

theorem forall₂_takes_congr {decoder : Decoder α} {before after : List Content} {c c' : Content}
    {as : List α} (h : ∀ a, Takes decoder c a ↔ Takes decoder c' a) :
    List.Forall₂ (Takes decoder) (before ++ c :: after) as ↔
      List.Forall₂ (Takes decoder) (before ++ c' :: after) as := by
  induction before generalizing as with
  | nil => simp only [List.nil_append, List.forall₂_cons_left_iff, h]
  | cons d before ih => simp only [List.cons_append, List.forall₂_cons_left_iff, ih]

/-! ### Records as objects -/

/-- `schema.Makes seen r ms v`: from the record `r`, with the fields seen so far, the members make
the record `v`. -/
inductive Schema.Makes (schema : Schema ρ) :
    List String → ρ → List (Option String × Content) → ρ → Prop
  | done {seen : List String} {r : ρ} (given : schema.missing? seen = none) : Makes schema seen r [] r
  | extra {seen : List String} {r v : ρ} {k : String} {c : Content}
      {ms : List (Option String × Content)} (unknown : schema.field? k = none)
      (tail : Makes schema seen r ms v) : Makes schema seen r ((some k, c) :: ms) v
  | field {seen : List String} {r v : ρ} {k : String} {f : RecordField ρ} {c : Content}
      {put : ρ → ρ} {ms : List (Option String × Content)} (known : schema.field? k = some f)
      (fresh : k ∉ seen) (takes : Takes f.set c put) (tail : Makes schema (k :: seen) (put r) ms v) :
      Makes schema seen r ((some k, c) :: ms) v

/-- Two fields change different parts of a record. -/
def RecordField.Commutes (f g : RecordField ρ) : Prop :=
  ∀ c d put put', Takes f.set c put → Takes g.set d put' → ∀ r, put (put' r) = put' (put r)

/-- The fields go by contents and have different keys, and change different parts of a record. -/
structure Schema.IsRegular (schema : Schema ρ) : Prop where
  contents : ∀ f ∈ schema.fields, Follows f.set id id
  keys : (schema.fields.map (·.key)).Nodup
  commute : schema.fields.Pairwise RecordField.Commutes

section Objects

variable {schema : Schema ρ} {seen seen' : List String} {r v : ρ} {k : String} {c : Content}
variable {f g : RecordField ρ} {ms ms' : List (Option String × Content)}

theorem Schema.makes_nil_iff :
    schema.Makes seen r [] v ↔ schema.missing? seen = none ∧ r = v := by
  constructor
  · intro h
    cases h with
    | done given => exact ⟨given, rfl⟩
  · rintro ⟨given, rfl⟩
    exact .done given

theorem Schema.makes_extra_iff (hk : schema.field? k = none) :
    schema.Makes seen r ((some k, c) :: ms) v ↔ schema.Makes seen r ms v := by
  refine ⟨fun h => ?_, .extra hk⟩
  cases h with
  | extra _ tail => exact tail
  | field known _ _ _ => cases hk.symm.trans known

/-- A member that is a field has not been seen, and puts what its content gives. -/
theorem Schema.makes_field_iff (hk : schema.field? k = some f) :
    schema.Makes seen r ((some k, c) :: ms) v ↔
      k ∉ seen ∧ ∃ put, Takes f.set c put ∧ schema.Makes (k :: seen) (put r) ms v := by
  constructor
  · intro h
    cases h with
    | extra unknown _ => cases hk.symm.trans unknown
    | field known fresh takes tail =>
        cases hk.symm.trans known
        exact ⟨fresh, _, takes, tail⟩
  · rintro ⟨fresh, put, takes, tail⟩
    exact .field hk fresh takes tail

theorem RecordField.Commutes.symm (h : f.Commutes g) : g.Commutes f :=
  fun c d put put' hput hput' r => (h d c put' put hput' hput r).symm

theorem FieldsFollow.contents {fields : List (RecordField ρ)}
    (h : FieldsFollow fields (fun _ => .kept) (fun _ => id) id) :
    ∀ f ∈ fields, Follows f.set id id := by
  intro f hf node put hput
  obtain ⟨c, hc⟩ := (h f hf).content node put hput
  refine ⟨c, hc, fun node' hc' => ?_⟩
  obtain ⟨put', hput', heq⟩ := (h f hf).stays rfl node put hput c hc node' hc'
  rw [hput', show put = put' from funext heq]
  rfl

theorem RecordField.commutes_of_put {decode : Decoder α} {decode' : Decoder β} {put : α → ρ → ρ}
    {put' : β → ρ → ρ} (hf : f.set = fun node => (decode node).map put)
    (hg : g.set = fun node => (decode' node).map put')
    (h : ∀ a b r, put a (put' b r) = put' b (put a r)) : f.Commutes g := by
  intro c d p q hp hq r
  rw [hf] at hp
  rw [hg] at hq
  obtain ⟨a, -, rfl⟩ := takes_map_iff.1 hp
  obtain ⟨b, -, rfl⟩ := takes_map_iff.1 hq
  exact h a b r

/-- The members of an object make a record exactly if their contents do. -/
theorem Schema.decode_iff_makes (hset : ∀ f ∈ schema.fields, Follows f.set id id) :
    ∀ {ms : List (Option String × Content)} {members : Members} {seen : List String} {r : ρ},
      members.content? = some ms →
        (members.decode schema seen r = .ok v ↔ schema.Makes seen r ms v) := by
  intro ms
  induction ms with
  | nil =>
      intro members seen r hms
      obtain ⟨after, rfl⟩ := Members.eq_close hms
      rw [Members.decode, Schema.makes_nil_iff]
      cases schema.missing? seen <;> simp
  | cons m ms ih =>
      obtain ⟨k, c⟩ := m
      intro members seen r hms
      obtain ⟨key, value, tail, rfl, htext, hvalue, htail⟩ := Members.eq_cons hms
      rw [decode_cons_eq_ok_iff]
      constructor
      · rintro ⟨k', htext', ⟨hfield, -, h⟩ | ⟨f, put, hfield, hfresh, hput, h⟩⟩
        · rw [htext] at htext'
          rw [htext']
          exact .extra hfield ((ih htail).1 h)
        · rw [htext] at htext'
          rw [htext']
          exact .field hfield hfresh ⟨value, hvalue, hput⟩ ((ih htail).1 h)
      · intro h
        cases h with
        | extra unknown h =>
            exact ⟨_, htext, Or.inl ⟨unknown, (Node.skip_eq_ok_iff value).2 ⟨c, hvalue⟩,
              (ih htail).2 h⟩⟩
        | field known fresh takes h =>
            -- the field decodes this value as well as the one that its content was taken from
            have hput := ((hset _ (Schema.of_field? known).1).takes_iff hvalue).1 takes
            exact ⟨_, htext, Or.inr ⟨_, _, known, fresh, hput, (ih htail).2 h⟩⟩

/-- Members have a content as an object if each of them has one. -/
theorem isSaid_object_iff : (Content.object ms).IsSaid ↔ ∀ m ∈ ms, m.2.IsSaid := by
  have hmembers : (∀ m ∈ ms, m.2.IsSaid) ↔ ∃ members : Members, members.content? = some ms := by
    induction ms with
    | nil => exact ⟨fun _ => ⟨.close [], rfl⟩, fun _ => List.forall_mem_nil _⟩
    | cons m ms ih =>
        obtain ⟨k, c⟩ := m
        rw [List.forall_mem_cons, ih]
        constructor
        · rintro ⟨⟨node, hc⟩, members, hms⟩
          have hkey : ∃ key : StringToken, key.text? = k := by
            cases k with
            | some k => exact ⟨⟨.ok k, .ok []⟩, rfl⟩
            | none => exact ⟨⟨.error ⟨.loneSurrogate, .before []⟩, .ok []⟩, rfl⟩
          obtain ⟨key, rfl⟩ := hkey
          exact ⟨.cons key node members, by rw [Members.content?, hc, hms]⟩
        · rintro ⟨members, hms⟩
          obtain ⟨key, value, tail, rfl, -, hvalue, htail⟩ := Members.eq_cons hms
          exact ⟨⟨value, hvalue⟩, tail, htail⟩
  rw [hmembers]
  constructor
  · rintro ⟨node, hc⟩
    obtain ⟨start, members, rfl, hms⟩ := Node.eq_object hc
    exact ⟨members, hms⟩
  · rintro ⟨members, hms⟩
    exact ⟨.object [] members, by rw [Node.content?, hms]; rfl⟩

/-- **An object is a record if its members make it**, and the ones that do not matter are complete. -/
theorem takes_object_iff (h : schema.IsRegular) :
    Takes (record schema) (.object ms) v ↔
      (∀ m ∈ ms, m.2.IsSaid) ∧ schema.Makes [] schema.blank ms v := by
  rw [← isSaid_object_iff]
  constructor
  · rintro ⟨node, hc, hv⟩
    obtain ⟨start, members, rfl, hms⟩ := Node.eq_object hc
    exact ⟨⟨_, hc⟩, (Schema.decode_iff_makes h.contents hms).1 hv⟩
  · rintro ⟨⟨node, hc⟩, hmakes⟩
    obtain ⟨start, members, rfl, hms⟩ := Node.eq_object hc
    exact ⟨_, hc, (Schema.decode_iff_makes h.contents hms).2 hmakes⟩

theorem Schema.field?_eq_none_iff : schema.field? k = none ↔ k ∉ schema.fields.map (·.key) := by
  simp [Schema.field?]

/-- Every member that is a field is taken. -/
theorem Schema.Makes.takes_of_mem (h : schema.Makes seen r ms v) (hk : schema.field? k = some f)
    (hms : (some k, c) ∈ ms) : ∃ put, Takes f.set c put := by
  induction h with
  | done given => cases hms
  | extra unknown _ ih =>
      rcases List.mem_cons.1 hms with heq | hms
      · cases heq
        rw [hk] at unknown
        cases unknown
      · exact ih hms
  | field known fresh takes _ ih =>
      rcases List.mem_cons.1 hms with heq | hms
      · cases heq
        rw [hk] at known
        cases known
        exact ⟨_, takes⟩
      · exact ih hms

theorem takes_object_extra_iff (h : schema.IsRegular) (hk : schema.field? k = none) (hc : c.IsSaid) :
    Takes (record schema) (.object ((some k, c) :: ms)) v ↔ Takes (record schema) (.object ms) v := by
  rw [takes_object_iff h, takes_object_iff h, List.forall_mem_cons, and_iff_right hc,
    Schema.makes_extra_iff hk]

theorem takes_object_congr (h : schema.IsRegular) {c' : Content} (hc : c.IsSaid ↔ c'.IsSaid)
    (htakes : ∀ f, schema.field? k = some f → ∀ put, Takes f.set c put ↔ Takes f.set c' put) :
    Takes (record schema) (.object ((some k, c) :: ms)) v ↔
      Takes (record schema) (.object ((some k, c') :: ms)) v := by
  rw [takes_object_iff h, takes_object_iff h, List.forall_mem_cons, List.forall_mem_cons, hc]
  refine and_congr_right fun _ => ?_
  cases hk : schema.field? k with
  | none => rw [Schema.makes_extra_iff hk, Schema.makes_extra_iff hk]
  | some f => simp only [Schema.makes_field_iff hk, htakes f hk]

/-! #### The order of members -/

/-- What has been seen does not depend on the order either. -/
theorem Schema.Makes.congr_seen (h : schema.Makes seen r ms v)
    (hseen : ∀ k, k ∈ seen ↔ k ∈ seen') : schema.Makes seen' r ms v := by
  induction h generalizing seen' with
  | @done seen r given =>
      rw [Schema.missing?_eq_none_iff] at given
      exact .done (Schema.missing?_eq_none_iff.2 fun f hf hrequired =>
        (hseen f.key).1 (given f hf hrequired))
  | extra unknown _ ih => exact .extra unknown (ih hseen)
  | @field seen r v k f c put ms known fresh takes _ ih =>
      exact .field known (fun h => fresh ((hseen k).2 h)) takes (ih fun k' => by
        rw [List.mem_cons, List.mem_cons, hseen])

theorem Schema.IsRegular.commutes (h : schema.IsRegular) {k l : String}
    (hf : schema.field? k = some f) (hg : schema.field? l = some g) (hne : k ≠ l) : f.Commutes g := by
  obtain ⟨hfmem, rfl⟩ := Schema.of_field? hf
  obtain ⟨hgmem, rfl⟩ := Schema.of_field? hg
  have hsymm : Std.Symm (RecordField.Commutes (ρ := ρ)) := ⟨fun _ _ h => h.symm⟩
  exact h.commute.forall hfmem hgmem fun heq => hne (heq ▸ rfl)

/-- Two members may change places. -/
theorem Schema.Makes.swap (hregular : schema.IsRegular) {m m' : Option String × Content}
    (h : schema.Makes seen r (m :: m' :: ms) v) : schema.Makes seen r (m' :: m :: ms) v := by
  cases h with
  | extra unknown tail =>
      cases tail with
      | extra unknown' tail => exact .extra unknown' (.extra unknown tail)
      | field known fresh takes tail => exact .field known fresh takes (.extra unknown tail)
  | @field _ _ _ k f _ put _ known fresh takes tail =>
      cases tail with
      | extra unknown tail => exact .extra unknown (.field known fresh takes tail)
      | @field _ _ _ l g _ put' _ known' fresh' takes' tail =>
          -- two fields: what they put and what has been seen of them change places as well
          obtain ⟨hne, hfresh'⟩ := not_or.1 (mt List.mem_cons.2 fresh')
          have hputs : put' (put r) = put (put' r) :=
            (hregular.commutes known' known hne) _ _ _ _ takes' takes r
          rw [hputs] at tail
          have hfresh : k ∉ l :: seen := by
            rw [List.mem_cons, not_or]
            exact ⟨Ne.symm hne, fresh⟩
          refine .field known' hfresh' takes' (.field known hfresh takes (tail.congr_seen fun j => ?_))
          simp only [List.mem_cons]
          exact or_left_comm

/-- **The order of the members does not matter**, by induction on the permutation. -/
theorem Schema.Makes.perm (hregular : schema.IsRegular) (hperm : ms.Perm ms')
    (h : schema.Makes seen r ms v) : schema.Makes seen r ms' v := by
  induction hperm generalizing seen r with
  | nil => exact h
  | cons m _ ih =>
      cases h with
      | extra unknown tail => exact .extra unknown (ih tail)
      | field known fresh takes tail => exact .field known fresh takes (ih tail)
  | swap m m' ms => exact h.swap hregular
  | trans _ _ ih ih' => exact ih' (ih h)

theorem takes_object_perm_iff (h : schema.IsRegular) (hperm : ms.Perm ms') :
    Takes (record schema) (.object ms) v ↔ Takes (record schema) (.object ms') v := by
  rw [takes_object_iff h, takes_object_iff h]
  refine and_congr (forall_congr' fun m => ?_) ⟨fun hm => hm.perm h hperm,
    fun hm => hm.perm h hperm.symm⟩
  rw [hperm.mem_iff]

/-! #### Members that come twice -/

/-- A field that has been seen is not given. -/
theorem Schema.not_makes_of_seen (hk : schema.field? k = some f) (hseen : k ∈ seen)
    (hms : some k ∈ ms.map (·.1)) : ¬ schema.Makes seen r ms v := by
  intro h
  induction h with
  | done given => simp at hms
  | @extra seen r v k' c ms unknown _ ih =>
      rw [List.map_cons, List.mem_cons] at hms
      rcases hms with heq | hms
      · rw [Option.some.inj heq, unknown] at hk
        cases hk
      · exact ih hseen hms
  | @field seen r v k' f' c put ms known fresh takes _ ih =>
      rw [List.map_cons, List.mem_cons] at hms
      rcases hms with heq | hms
      · exact fresh (Option.some.inj heq ▸ hseen)
      · exact ih (List.mem_cons_of_mem _ hseen) hms

/-- **A field that is given twice is refused**, whatever is given. -/
theorem Schema.not_makes_of_repeated {c c' : Content}
    {before between after : List (Option String × Content)} (hk : schema.field? k = some f) :
    ¬ schema.Makes seen r
      (before ++ (some k, c) :: (between ++ (some k, c') :: after)) v := by
  intro h
  induction before generalizing seen r with
  | nil =>
      obtain ⟨-, put, -, tail⟩ := (Schema.makes_field_iff hk).1 h
      exact Schema.not_makes_of_seen hk List.mem_cons_self (by simp) tail
  | cons m before ih =>
      cases h with
      | extra unknown tail => exact ih tail
      | field known fresh takes tail => exact ih tail

/-! #### A member apart from the others -/

/-- **A field that the members do not give may be put first.**  Then it changes the record that they
make as it changes the record they start from. -/
theorem Schema.Makes.put (hregular : schema.IsRegular) {put : ρ → ρ} (hk : schema.field? k = some f)
    (takes : Takes f.set c put) (hms : some k ∉ ms.map (·.1)) (h : schema.Makes seen r ms v) :
    schema.Makes (k :: seen) (put r) ms (put v) := by
  induction h with
  | @done seen r given =>
      rw [Schema.missing?_eq_none_iff] at given
      exact .done (Schema.missing?_eq_none_iff.2 fun g hg hrequired =>
        List.mem_cons_of_mem k (given g hg hrequired))
  | @extra seen r v l c ms unknown _ ih =>
      rw [List.map_cons, List.mem_cons, not_or] at hms
      exact .extra unknown (ih hms.2)
  | @field seen r v l g d put' ms known fresh takes' _ ih =>
      rw [List.map_cons, List.mem_cons, not_or] at hms
      -- the two fields put different parts, so they change places
      have hne : l ≠ k := fun heq => hms.1 (congrArg some heq.symm)
      have hputs : put' (put r) = put (put' r) :=
        (hregular.commutes known hk hne) _ _ _ _ takes' takes r
      have hfresh : l ∉ k :: seen := by
        rw [List.mem_cons, not_or]
        exact ⟨hne, fresh⟩
      have htail := ih hms.2
      rw [← hputs] at htail
      refine .field known hfresh takes' (htail.congr_seen fun j => ?_)
      simp only [List.mem_cons]
      exact or_left_comm

end Objects

/-! ### Records as arrays -/

/-- From the record `r`, the items make the record `v`, one field after the other. -/
inductive MakesInOrder : List (RecordField ρ) → ρ → List Content → ρ → Prop
  | done {fs : List (RecordField ρ)} {r : ρ} (free : ∀ f ∈ fs, f.positional = false) :
      MakesInOrder fs r [] r
  | field {f : RecordField ρ} {fs : List (RecordField ρ)} {r v : ρ} {c : Content} {put : ρ → ρ}
      {cs : List Content} (takes : Takes f.set c put) (tail : MakesInOrder fs (put r) cs v) :
      MakesInOrder (f :: fs) r (c :: cs) v

section Arrays

variable {schema : Schema ρ} {v : ρ} {cs : List Content}

theorem makesInOrder_nil_iff {fs : List (RecordField ρ)} {r : ρ} :
    MakesInOrder fs r [] v ↔ (∀ f ∈ fs, f.positional = false) ∧ r = v := by
  constructor
  · intro h
    cases h with
    | done free => exact ⟨free, rfl⟩
  · rintro ⟨free, rfl⟩
    exact .done free

theorem makesInOrder_cons_iff {f : RecordField ρ} {fs : List (RecordField ρ)} {r : ρ} {c : Content} :
    MakesInOrder (f :: fs) r (c :: cs) v ↔ ∃ put, Takes f.set c put ∧ MakesInOrder fs (put r) cs v := by
  constructor
  · intro h
    cases h with
    | field takes tail => exact ⟨_, takes, tail⟩
  · rintro ⟨put, takes, tail⟩
    exact .field takes tail

/-- The items of an array make a record exactly if their contents do. -/
theorem fields_iff_makes {name : String} {total : Nat} : ∀ {fs : List (RecordField ρ)}
    {items : Items} {cs : List Content} {r : ρ}, (∀ f ∈ fs, Follows f.set id id) →
      items.content? = some cs →
        (items.fields name total fs r = .ok v ↔ MakesInOrder fs r cs v) := by
  intro fs
  induction fs with
  | nil =>
      intro items cs r _ hcs
      cases cs with
      | nil =>
          obtain ⟨after, rfl⟩ := Items.eq_close hcs
          rw [makesInOrder_nil_iff, and_iff_right (List.forall_mem_nil _)]
          exact ⟨Except.ok.inj, congrArg Except.ok⟩
      | cons c cs =>
          obtain ⟨start, head, tail, rfl, -, -⟩ := Items.eq_cons hcs
          exact ⟨nofun, nofun⟩
  | cons f fs ih =>
      intro items cs r hset hcs
      obtain ⟨hf, hfs⟩ := List.forall_mem_cons.1 hset
      cases cs with
      | nil =>
          obtain ⟨after, rfl⟩ := Items.eq_close hcs
          rw [Items.fields, makesInOrder_nil_iff, ← List.findIdx?_eq_none_iff]
          cases (f :: fs).findIdx? (·.positional) <;> simp
      | cons c cs =>
          obtain ⟨start, head, tail, rfl, hhead, htail⟩ := Items.eq_cons hcs
          rw [Items.fields, bind_eq_ok_iff, makesInOrder_cons_iff]
          simp only [hf.takes_iff hhead, ih hfs htail]

/-- Items have a content as an array if each of them has one. -/
theorem isSaid_array_iff : (Content.array cs).IsSaid ↔ ∀ c ∈ cs, c.IsSaid := by
  have hitems : (∀ c ∈ cs, c.IsSaid) ↔ ∃ items : Items, items.content? = some cs := by
    induction cs with
    | nil => exact ⟨fun _ => ⟨.close [], rfl⟩, fun _ => List.forall_mem_nil _⟩
    | cons c cs ih =>
        rw [List.forall_mem_cons, ih]
        constructor
        · rintro ⟨⟨node, hc⟩, items, hcs⟩
          exact ⟨.cons [] node items, by rw [Items.content?, hc, hcs]⟩
        · rintro ⟨items, hcs⟩
          obtain ⟨start, head, tail, rfl, hhead, htail⟩ := Items.eq_cons hcs
          exact ⟨⟨head, hhead⟩, tail, htail⟩
  rw [hitems]
  constructor
  · rintro ⟨node, hc⟩
    obtain ⟨start, items, rfl, hcs⟩ := Node.eq_array hc
    exact ⟨items, hcs⟩
  · rintro ⟨items, hcs⟩
    exact ⟨.array [] items, by rw [Node.content?, hcs]; rfl⟩

theorem MakesInOrder.isSaid {fs : List (RecordField ρ)} {r : ρ} (h : MakesInOrder fs r cs v) :
    ∀ c ∈ cs, c.IsSaid := by
  induction h with
  | done free => exact List.forall_mem_nil _
  | field takes _ ih => exact List.forall_mem_cons.2 ⟨takes.isSaid, ih⟩

/-- **An array is a record if its items make it, in the order of the fields.** -/
theorem takes_array_iff (h : schema.IsRegular) :
    Takes (record schema) (.array cs) v ↔ MakesInOrder schema.fields schema.blank cs v := by
  constructor
  · rintro ⟨node, hc, hv⟩
    obtain ⟨start, items, rfl, hcs⟩ := Node.eq_array hc
    exact (fields_iff_makes h.contents hcs).1 hv
  · intro hmakes
    obtain ⟨node, hc⟩ := isSaid_array_iff.2 hmakes.isSaid
    obtain ⟨start, items, rfl, hcs⟩ := Node.eq_array hc
    exact ⟨_, hc, (fields_iff_makes h.contents hcs).2 hmakes⟩

def named (keys : List String) (cs : List Content) : List (Option String × Content) :=
  (keys.map some).zip cs

/-- Items make a record as the members do that give them under the keys of the fields. -/
theorem makesInOrder_iff (hgiven : ∀ seen, schema.missing? seen = none) :
    ∀ {fs : List (RecordField ρ)} {cs : List Content} {seen : List String} {r : ρ},
      (∀ f ∈ fs, schema.field? f.key = some f ∧ f.positional = false ∧ f.key ∉ seen) →
      (fs.map (·.key)).Nodup →
        (MakesInOrder fs r cs v ↔
          cs.length ≤ fs.length ∧ schema.Makes seen r (named (fs.map (·.key)) cs) v) := by
  have hnil {fs : List (RecordField ρ)} {seen : List String} {r : ρ}
      (hfs : ∀ f ∈ fs, f.positional = false) :
      MakesInOrder fs r [] v ↔ schema.Makes seen r [] v := by
    rw [makesInOrder_nil_iff, Schema.makes_nil_iff, and_iff_right hfs, and_iff_right (hgiven seen)]
  intro fs
  induction fs with
  | nil =>
      intro cs seen r _ _
      cases cs with
      | nil => exact (hnil (List.forall_mem_nil _)).trans (and_iff_right (Nat.le_refl 0)).symm
      | cons c cs => exact ⟨nofun, fun h => absurd h.1 (by simp)⟩
  | cons f fs ih =>
      intro cs seen r hfs hkeys
      obtain ⟨⟨hf, -, hseen⟩, htail⟩ := List.forall_mem_cons.1 hfs
      rw [List.map_cons, List.nodup_cons] at hkeys
      cases cs with
      | nil =>
          have hfree : ∀ g ∈ f :: fs, g.positional = false := fun g hg => (hfs g hg).2.1
          exact (hnil hfree).trans (and_iff_right (Nat.zero_le _)).symm
      | cons c cs =>
          -- the key of this field is seen from here on, and none of the others has it
          have hrest (g : RecordField ρ) (hg : g ∈ fs) :
              schema.field? g.key = some g ∧ g.positional = false ∧ g.key ∉ f.key :: seen := by
            obtain ⟨hfield, hfree, hfresh⟩ := htail g hg
            refine ⟨hfield, hfree, ?_⟩
            rw [List.mem_cons, not_or]
            exact ⟨fun heq => hkeys.1 (heq ▸ List.mem_map_of_mem hg), hfresh⟩
          have hfield (cs : List Content) :
              schema.Makes seen r (named ((f :: fs).map (·.key)) (c :: cs)) v ↔
                ∃ put, Takes f.set c put ∧
                  schema.Makes (f.key :: seen) (put r) (named (fs.map (·.key)) cs) v :=
            (Schema.makes_field_iff hf).trans (and_iff_right hseen)
          rw [makesInOrder_cons_iff, hfield, List.length_cons, List.length_cons,
            Nat.add_le_add_iff_right]
          simp only [ih hrest hkeys.2]
          exact ⟨fun ⟨put, takes, hle, hmakes⟩ => ⟨hle, put, takes, hmakes⟩,
            fun ⟨hle, put, takes, hmakes⟩ => ⟨put, takes, hle, hmakes⟩⟩

theorem MakesInOrder.length_le {fs : List (RecordField ρ)} {r : ρ} (h : MakesInOrder fs r cs v) :
    cs.length ≤ fs.length := by
  induction h with
  | done free => exact Nat.zero_le _
  | field _ _ ih => exact Nat.succ_le_succ ih

/-- **A record is an object, or an array with no more items than there are fields.** -/
theorem Schema.IsRegular.shape_of_takes (h : schema.IsRegular) {c : Content}
    (hv : Takes (record schema) c v) :
    (∃ ms, c = .object ms) ∨ ∃ cs, c = .array cs ∧ cs.length ≤ schema.fields.length := by
  cases c with
  | object ms => exact Or.inl ⟨ms, rfl⟩
  | array cs => exact Or.inr ⟨cs, rfl, ((takes_array_iff h).1 hv).length_le⟩
  | _ =>
      obtain ⟨node, hc, hv⟩ := hv
      cases node <;> simp [Node.content?] at hc
      cases hv

/-- A record that may leave out any of its fields. -/
def Schema.IsFree (schema : Schema ρ) : Prop :=
  ∀ f ∈ schema.fields, f.required = false ∧ f.positional = false

/-- **An array is a record exactly as the object that gives its items under the keys of the
fields**, if it has no more items than there are fields. -/
theorem takes_array_iff_object (h : schema.IsRegular) (hfree : schema.IsFree) :
    Takes (record schema) (.array cs) v ↔ cs.length ≤ schema.fields.length ∧
      Takes (record schema) (.object (named (schema.fields.map (·.key)) cs)) v := by
  have hgiven (seen : List String) : schema.missing? seen = none := by
    refine Schema.missing?_eq_none_iff.2 fun f hf hrequired => ?_
    rw [(hfree f hf).1] at hrequired
    cases hrequired
  have hfields : ∀ f ∈ schema.fields,
      schema.field? f.key = some f ∧ f.positional = false ∧ f.key ∉ [] :=
    fun f hf => ⟨Schema.field?_key h.keys hf, (hfree f hf).2, List.not_mem_nil⟩
  have hiff := @makesInOrder_iff _ schema v hgiven _ cs [] schema.blank hfields h.keys
  rw [takes_object_iff h, takes_array_iff h, hiff]
  refine and_congr_right fun hle => (and_iff_right_of_imp fun hmakes m hm => ?_).symm
  exact (hiff.2 ⟨hle, hmakes⟩).isSaid m.2 (List.of_mem_zip (a := m.1) (b := m.2) hm).2

end Arrays

end FirmwareCatalog.Json
