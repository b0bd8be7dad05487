/-
**Which layer decides.**

Settings are read from three layers laid over one another.  Each of the four choices is decided on
its own: by the last variable that names it, or else by the file, or else by what holds by default.
Only the value that decides has to be of the kind that the choice takes; what it covers does not
matter, and neither does anything else in the file or in the environment.

Layers are compared by the values that hold no others, because covering a value of that kind leaves
nothing of it, and a table or a list is never what a choice takes.

Main definitions:

* `Datum.text?`, `Datum.number?` — the kinds of values that choices take;
* `Environment.lastValue?`, `Toml.Table.choice?` — what variables and files say about a choice;
* `Settings.FileSays` — what the settings file says as a whole;
* `Settings.winning?` — the value that decides, where it is not the default;
* `Settings.DecidedBy` — settings in which each choice has the value that decides it.

Main results:

* `Datum.IsLayer.covering`, `Datum.scalar?_choice?_covering` — one layer over another;
* `Environment.scalar?_choice?_layer` — all variables of an environment;
* `Settings.load_decided` — **each choice is decided on its own**.
-/
import FirmwareCatalog.Proofs.Files.Tree
import FirmwareCatalog.Proofs.Outcome
import FirmwareCatalog.Proofs.Toml.Unbounded
import FirmwareCatalog.Settings.Store
import Mathlib.Data.List.Basic

set_option relaxedAutoImplicit false
set_option autoImplicit false

namespace FirmwareCatalog

/-! ### Values that hold no others -/

namespace Datum

def scalar? : Datum → Option Scalar
  | .scalar _ v => some v
  | _ => none

/-- The text that a value is. -/
def text? (d : Datum) : Option String :=
  match d.scalar? with
  | some (.text s) => some s
  | _ => none

/-- The whole number that a value is, without a sign and of 64 bits. -/
def number? (d : Datum) : Option UInt64 :=
  match d.scalar? with
  | some (.unsigned n) => if n < UInt64.size then some (UInt64.ofNat n) else none
  | some (.signed n) =>
    if 0 ≤ n ∧ n < UInt64.size then some (UInt64.ofNat n.toNat) else none
  | _ => none

/-- A value as variables and documents give it: it is not expressly unset, and not a whole number
beyond 64 bits. -/
def IsGiven (d : Datum) : Prop :=
  match d.scalar? with
  | some .unset => False
  | some (.unsigned n) => n < UInt64.size
  | some (.signed n) => n < UInt64.size
  | _ => True

section Shown

variable {d d' : Datum} (h : d.scalar? = d'.scalar?)

include h

theorem text?_congr : d.text? = d'.text? := by
  unfold text?
  rw [h]

theorem number?_congr : d.number? = d'.number? := by
  unfold number?
  rw [h]

theorem isGiven_congr : d.IsGiven ↔ d'.IsGiven := by
  unfold IsGiven
  rw [h]

end Shown

theorem scalar?_covering (upper lower : Datum) :
    (upper.covering lower).scalar? = upper.scalar? := by
  cases upper with
  | scalar o v => cases lower <;> rfl
  | list o items => cases lower <;> rfl
  | table o entries => cases lower <;> simp [covering, scalar?]

theorem scalar?_coverEntry (below : List (String × Datum)) (key : String) (d : Datum) :
    (coverEntry below key d).scalar? = d.scalar? := by
  unfold coverEntry
  split
  · exact scalar?_covering d _
  · rfl

/-! ### Layers -/

/-- The value of a choice about the catalog. -/
def choice? (name : String) (d : Datum) : Option Datum := (d.get? "api").bind (get? name)

/-- A layer is a table, with a table for the choices about the catalog if it has any. -/
def IsLayer (d : Datum) : Prop :=
  (∃ o entries, d = .table o entries) ∧ ∀ v, d.get? "api" = some v → ∃ o choices, v = .table o choices

variable {upper lower : Datum}

theorem get?_api_covering {o p : Origin} {entries below : List (String × Datum)} :
    ((table o entries).covering (table p below)).get? "api" =
      ((entries.lookup "api").map (coverEntry below "api")).or (below.lookup "api") :=
  get?_covering o p entries below "api"

/-- A layer over another one is a layer. -/
theorem IsLayer.covering (hupper : upper.IsLayer) (hlower : lower.IsLayer) :
    (upper.covering lower).IsLayer := by
  obtain ⟨⟨o, entries, rfl⟩, hentries⟩ := hupper
  obtain ⟨⟨p, below, rfl⟩, hbelow⟩ := hlower
  refine ⟨⟨o, _, rfl⟩, ?_⟩
  intro v hv
  rw [get?_api_covering] at hv
  cases hfound : entries.lookup "api" with
  | none =>
      rw [hfound] at hv
      exact hbelow v hv
  | some w =>
      obtain ⟨q, choices, rfl⟩ := hentries w hfound
      rw [hfound] at hv
      cases hv
      unfold coverEntry
      cases hunder : below.lookup "api" with
      | none => exact ⟨q, choices, rfl⟩
      | some x =>
          obtain ⟨r, under, rfl⟩ := hbelow x hunder
          exact ⟨q, _, rfl⟩

/-- **A choice has what the upper layer says, or else what the lower one says.** -/
theorem scalar?_choice?_covering (hupper : upper.IsLayer) (hlower : lower.IsLayer)
    (name : String) :
    ((upper.covering lower).choice? name).map scalar? =
      ((upper.choice? name).or (lower.choice? name)).map scalar? := by
  obtain ⟨⟨o, entries, rfl⟩, hentries⟩ := hupper
  obtain ⟨⟨p, below, rfl⟩, hbelow⟩ := hlower
  unfold choice?
  rw [get?_api_covering]
  cases hfound : entries.lookup "api" with
  | none => simp [get?, hfound]
  | some w =>
      obtain ⟨q, choices, rfl⟩ := hentries w hfound
      cases hunder : below.lookup "api" with
      | none => simp [get?, hfound, hunder, coverEntry]
      | some x =>
          obtain ⟨r, under, rfl⟩ := hbelow x hunder
          have hcover := get?_covering q r choices under name
          simp only [get?, hfound, hunder, coverEntry, Option.map_some, Option.some_or,
            Option.bind_some] at hcover ⊢
          rw [hcover]
          cases hname : choices.lookup name with
          | none => rfl
          | some d => simp [scalar?_coverEntry]

/-- Layers laid over one another from below: a choice has what the last of them says. -/
theorem foldl_covering (layers : List Datum) (hlayers : ∀ d ∈ layers, d.IsLayer) (name : String) :
    ∀ {below : Datum}, below.IsLayer →
      (layers.foldl (fun below v => v.covering below) below).IsLayer ∧
      ((layers.foldl (fun below v => v.covering below) below).choice? name).map scalar? =
        ((layers.filterMap (choice? name)).getLast?.or (below.choice? name)).map scalar? := by
  induction layers with
  | nil =>
      intro below hbelow
      exact ⟨hbelow, rfl⟩
  | cons d layers ih =>
      intro below hbelow
      have hd : d.IsLayer := hlayers d List.mem_cons_self
      obtain ⟨hlayer, hchoice⟩ :=
        ih (fun x hx => hlayers x (List.mem_cons_of_mem _ hx)) (hd.covering hbelow)
      have hstep := scalar?_choice?_covering hd hbelow name
      refine ⟨hlayer, ?_⟩
      rw [List.foldl_cons, hchoice, List.filterMap_cons]
      -- the last layer that says something decides, so this one does only if no later one does
      cases hsaid : d.choice? name with
      | none =>
          rw [hsaid] at hstep
          cases (layers.filterMap (choice? name)).getLast? with
          | none => simpa using hstep
          | some x => rfl
      | some x =>
          rw [hsaid] at hstep
          rw [List.getLast?_cons]
          cases (layers.filterMap (choice? name)).getLast? with
          | none => simpa using hstep
          | some y => rfl

end Datum

/-! ### Variables -/

namespace VariableValue

open Datum (IsGiven)

/-- A whole number is not beyond 64 bits. -/
theorem integer?_isGiven {s : List Char} {v : Scalar} (h : integer? s = some v) (o : Origin) :
    IsGiven (.scalar o v) := by
  unfold integer? at h
  generalize sign s = signed at h
  obtain ⟨negative, ds⟩ := signed
  obtain ⟨n, -, h⟩ := Option.bind_eq_some_iff.1 h
  cases negative with
  | true =>
      obtain ⟨-, h⟩ := Option.ite_none_right_eq_some.1 h
      cases h
      simp only [IsGiven, Datum.scalar?, UInt64.size]
      omega
  | false =>
      obtain ⟨hn, h⟩ := Option.ite_none_right_eq_some.1 h
      cases h
      exact hn

/-- A text without quotes gives a value. -/
theorem plain_isGiven (s : List Char) (o : Origin) : IsGiven (.scalar o (plain s)) := by
  unfold plain
  cases hreal : real? s with
  | some v =>
      unfold real? at hreal
      dsimp only at hreal
      split at hreal
      · obtain ⟨n, -, hreal⟩ := Option.bind_eq_some_iff.1 hreal
        obtain ⟨e, -, hreal⟩ := Option.bind_eq_some_iff.1 hreal
        cases hreal
        trivial
      · cases hreal
  | none =>
      cases hinteger : integer? s with
      | some v => exact integer?_isGiven hinteger o
      | none => trivial

/-- A variable gives a value. -/
theorem parse_isGiven (text : String) : (parse text).IsGiven := by
  have hvalue {n : Nat} {s r : List Char} {v : Datum} (h : value? n s = some (v, r)) :
      v.IsGiven := by
    cases n with
    | zero => cases h
    | succ n =>
        unfold value? at h
        split at h
        · cases h
          trivial
        · cases h
          trivial
        · obtain ⟨⟨es, rest⟩, -, h⟩ := Option.map_eq_some_iff.1 h
          cases h
          trivial
        · obtain ⟨⟨vs, rest⟩, -, h⟩ := Option.map_eq_some_iff.1 h
          cases h
          trivial
        · obtain ⟨⟨t, rest⟩, -, h⟩ := Option.map_eq_some_iff.1 h
          cases h
          trivial
        · split at h
          · cases h
            trivial
          · cases h
        · cases h
          exact plain_isGiven _ _
  unfold parse
  dsimp only
  split
  · rename_i h
    exact hvalue h
  · trivial

end VariableValue

namespace Environment

open Datum (choice? scalar?)

/-- What the last variable that names a choice says. -/
def lastValue? (e : Environment) (name : String) : Option Datum :=
  (e.entries.filterMap fun v =>
    if keys? v.1 = some ["api", name] then some (VariableValue.parse v.2) else none).getLast?

/-- The variables name single choices about the catalog, or nothing about it. -/
def NamesChoices (e : Environment) : Prop :=
  ∀ v ∈ e.entries, ∀ keys, keys? v.1 = some keys → keys.head? = some "api" →
    ∃ name, keys = ["api", name]

theorem keys?_ne_nil {name : String} {keys : List String} (h : keys? name = some keys) :
    keys ≠ [] := by
  unfold keys? at h
  dsimp only at h
  split at h
  · split at h
    · cases h
    · rw [← Option.some.inj h]
      exact mt List.map_eq_nil_iff.1 (Text.splitWhere_ne_nil _ _)
  · cases h

/-- The setting of a variable is a layer, which says something about a choice exactly if the
variable names it. -/
theorem isLayer_nest {keys : List String} (hne : keys ≠ [])
    (hnames : keys.head? = some "api" → ∃ name, keys = ["api", name]) (v : Datum) (name : String) :
    (nest keys v).IsLayer ∧
      (nest keys v).choice? name = if keys = ["api", name] then some v else none := by
  obtain ⟨key, rest, rfl⟩ := List.exists_cons_of_ne_nil hne
  by_cases hkey : key = "api"
  · subst hkey
    obtain ⟨name', hname⟩ := hnames rfl
    obtain ⟨-, rfl⟩ := List.cons.inj hname
    refine ⟨⟨⟨_, _, rfl⟩, ?_⟩, ?_⟩
    · intro w hw
      simp only [nest, List.foldr_cons, List.foldr_nil, Datum.get?, List.lookup_cons_self] at hw
      cases hw
      exact ⟨_, _, rfl⟩
    · by_cases hsame : name = name'
      · subst hsame
        simp [nest, choice?, Datum.get?]
      · have hother : (name == name') = false := beq_eq_false_iff_ne.2 hsame
        simp [nest, choice?, Datum.get?, List.lookup_cons, hother, Ne.symm hsame]
  · have hother : ("api" == key) = false := beq_eq_false_iff_ne.2 (Ne.symm hkey)
    have hnone : (nest (key :: rest) v).get? "api" = none := by
      simp [nest, Datum.get?, List.lookup_cons, hother]
    refine ⟨⟨⟨_, _, rfl⟩, ?_⟩, ?_⟩
    · intro w hw
      rw [hnone] at hw
      cases hw
    · simp [choice?, hnone, hkey]

/-- The setting of a variable of such an environment. -/
theorem isLayer_setting {e : Environment} (hnames : e.NamesChoices) {v : String × String}
    (hv : v ∈ e.entries) (name : String) :
    (∀ d, setting? v = some d → d.IsLayer) ∧
      (setting? v).bind (choice? name) =
        if keys? v.1 = some ["api", name] then some (VariableValue.parse v.2) else none := by
  unfold setting?
  cases hkeys : keys? v.1 with
  | none => simp
  | some keys =>
      have hlayer := isLayer_nest (keys?_ne_nil hkeys) (hnames v hv keys hkeys)
        (VariableValue.parse v.2) name
      constructor
      · intro d hd
        cases hd
        exact hlayer.1
      · simpa using hlayer.2

/-- **The settings of an environment are a layer, in which the last variable decides.** -/
theorem scalar?_choice?_layer {e : Environment} (hnames : e.NamesChoices) (name : String) :
    e.layer.IsLayer ∧
      (e.layer.choice? name).map scalar? = (e.lastValue? name).map scalar? := by
  have hlayers : ∀ d ∈ e.entries.filterMap setting?, d.IsLayer := by
    intro d hd
    obtain ⟨v, hv, hd⟩ := List.mem_filterMap.1 hd
    exact (isLayer_setting hnames hv name).1 d hd
  have hempty : Datum.IsLayer (.table .environment []) := ⟨⟨_, _, rfl⟩, nofun⟩
  obtain ⟨hlayer, hchoice⟩ := Datum.foldl_covering _ hlayers name hempty
  refine ⟨hlayer, ?_⟩
  have hsaid : (e.entries.filterMap setting?).filterMap (choice? name) =
      e.entries.filterMap fun v =>
        if keys? v.1 = some ["api", name] then some (VariableValue.parse v.2) else none := by
    rw [List.filterMap_filterMap]
    refine List.filterMap_congr fun v hv => ?_
    exact (isLayer_setting hnames hv name).2
  have hnone : (Datum.table .environment []).choice? name = none := rfl
  rw [layer, hchoice, hsaid, lastValue?, hnone, Option.or_none]

theorem lastValue?_isGiven {e : Environment} {name : String} {d : Datum}
    (h : e.lastValue? name = some d) : d.IsGiven := by
  obtain ⟨v, -, hv⟩ := List.mem_filterMap.1 (List.mem_of_getLast? h)
  split at hv
  · cases hv
    exact VariableValue.parse_isGiven v.2
  · cases hv

end Environment

/-! ### Documents -/

namespace Toml.Table

/-- What a document says about a choice. -/
def choice? (t : Toml.Table) (name : String) : Option Toml :=
  match t.get? "api".toList with
  | some (.table _ choices) => get? choices name.toList
  | _ => none

/-- If a document says anything about the catalog, it has a table for it. -/
def HasChoices (t : Toml.Table) : Prop :=
  ∀ v, t.get? "api".toList = some v → ∃ kind choices, v = .table kind choices

theorem HasChoices.of_choice? {t : Toml.Table} {name : String} {v : Toml}
    (h : t.choice? name = some v) : t.HasChoices := by
  intro w hw
  rw [choice?, hw] at h
  cases w with
  | table kind choices => exact ⟨kind, choices, rfl⟩
  | _ => cases h

/-- What a document says about a choice is in range. -/
theorem InRange.choice? {t : Toml.Table} (h : t.InRange) {name : String} {v : Toml}
    (hv : t.choice? name = some v) : v.InRange := by
  unfold Toml.Table.choice? at hv
  split at hv
  · rename_i kind choices hget
    have htable := h.get? hget
    cases htable with
    | table htable => exact InRange.get? htable hv
  · cases hv

end Toml.Table

namespace Datum

/-- The keys of a document are those of its layer. -/
theorem lookup_ofEntries (o : Origin) (t : Toml.Table) (key : String) :
    (ofEntries o t).lookup key = (t.get? key.toList).map (ofToml o) := by
  unfold Toml.Table.get?
  induction t with
  | nil => rfl
  | cons e rest ih =>
      obtain ⟨k, v⟩ := e
      by_cases h : key.toList = k
      · subst h
        simp [ofEntries]
      · have hkey : (key == String.ofList k) = false := by
          refine beq_eq_false_iff_ne.2 fun heq => h ?_
          rw [heq, String.toList_ofList]
        have hlist : (key.toList == k) = false := beq_eq_false_iff_ne.2 h
        rw [ofEntries, List.lookup_cons, List.lookup_cons, hkey, hlist]
        exact ih

theorem ofToml_isGiven {v : Toml} (h : v.InRange) (o : Origin) : (ofToml o v).IsGiven := by
  cases h with
  | @integer n h =>
      simp only [Toml.fits, Bool.and_eq_true, decide_eq_true_eq] at h
      simp only [ofToml, IsGiven, scalar?, UInt64.size]
      omega
  | _ => simp [ofToml, IsGiven, scalar?]

/-- A document with choices is a layer, which says about them what the document says. -/
theorem isLayer_ofEntries {t : Toml.Table} (h : t.HasChoices) (o : Origin) :
    (table o (ofEntries o t)).IsLayer ∧
      ∀ name, (table o (ofEntries o t)).choice? name = (t.choice? name).map (ofToml o) := by
  have hapi : (table o (ofEntries o t)).get? "api" = (t.get? "api".toList).map (ofToml o) :=
    lookup_ofEntries o t "api"
  unfold Toml.Table.choice? choice?
  rw [IsLayer, hapi]
  cases hget : t.get? "api".toList with
  | none => exact ⟨⟨⟨_, _, rfl⟩, nofun⟩, fun _ => rfl⟩
  | some v =>
      obtain ⟨kind, choices, rfl⟩ := h v hget
      refine ⟨⟨⟨_, _, rfl⟩, ?_⟩, ?_⟩
      · intro w hw
        cases hw
        exact ⟨_, _, rfl⟩
      · intro name
        exact lookup_ofEntries o choices name

end Datum

/-! ### Fields -/

namespace Extract

open Datum (scalar?)

variable {α : Type}

theorem text_eq_ok_iff {d : Datum} {expected : Expected} {keys : List String} {s : String} :
    text expected keys d = .ok s ↔ d.text? = some s := by
  cases d with
  | scalar o v => cases v <;> simp [text, Datum.text?, scalar?]
  | list o items => simp [text, Datum.text?, scalar?]
  | table o entries => simp [text, Datum.text?, scalar?]

theorem path_eq_ok_iff {d : Datum} {keys : List String} {p : Path} :
    path keys d = .ok p ↔ d.text?.map Path.ofText = some p := by
  cases d with
  | scalar o v => cases v <;> simp [path, text, Datum.text?, scalar?, Except.map]
  | list o items => simp [path, text, Datum.text?, scalar?, Except.map]
  | table o entries => simp [path, text, Datum.text?, scalar?, Except.map]

/-- A whole number is taken if it has no sign and 64 bits. -/
theorem unsigned64_eq_ok_iff {d : Datum} (hgiven : d.IsGiven) {keys : List String} {n : UInt64} :
    unsigned64 keys d = .ok n ↔ d.number? = some n := by
  cases d with
  | scalar o v =>
      cases v with
      | unsigned m =>
          have hm : m < UInt64.size := hgiven
          simp only [unsigned64, Datum.number?, scalar?, if_pos hm, Except.ok.injEq,
            Option.some.injEq]
      | signed m =>
          have hm : m < UInt64.size := hgiven
          by_cases hneg : m < 0
          · have hnot : ¬ (0 ≤ m ∧ m < UInt64.size) := by omega
            simp only [unsigned64, Datum.number?, scalar?, if_pos hneg, if_neg hnot, reduceCtorEq]
          · have hin : 0 ≤ m ∧ m < UInt64.size := by omega
            simp only [unsigned64, Datum.number?, scalar?, if_neg hneg, if_pos hin, Except.ok.injEq,
              Option.some.injEq]
      | _ => simp [unsigned64, Datum.number?, scalar?]
  | list o items => simp [unsigned64, Datum.number?, scalar?]
  | table o entries => simp [unsigned64, Datum.number?, scalar?]

/-- A value that is given is taken by a choice that may be left unset if it is of the kind of the
choice. -/
theorem optional_eq_ok_iff {d : Datum} (hgiven : d.IsGiven)
    {take : List String → Datum → Except LayerFault α} {keys : List String} {taken : Option α}
    (htake : ∀ a, take keys d = .ok a ↔ taken = some a) {a : Option α} :
    optional take keys d = .ok a ↔ taken.map some = some a := by
  unfold optional
  split
  · exact hgiven.elim
  · cases htaken : take keys d with
    | ok x => simp [(htake x).1 htaken, Except.map]
    | error e =>
        have hnone : taken = none := by
          refine Option.eq_none_iff_forall_ne_some.2 fun x hx => ?_
          rw [(htake x).2 hx] at htaken
          cases htaken
        simp [hnone, Except.map]

/-- **A field is decided by the value that wins, or else by the default.** -/
theorem field_eq_ok_iff {entries : List (String × Datum)} {keys : List String} {key : String}
    {own a : α} {take : List String → Datum → Except LayerFault α} {kind? : Datum → Option α}
    {winner : Option Datum} {byDefault : Datum}
    (hshown : (entries.lookup key).map scalar? = (winner.or (some byDefault)).map scalar?)
    (hdefault : ∀ d : Datum, d.scalar? = byDefault.scalar? → take (keys ++ [key]) d = .ok own)
    (hwinner : ∀ d d' : Datum, winner = some d' → d.scalar? = d'.scalar? →
      (take (keys ++ [key]) d = .ok a ↔ kind? d' = some a)) :
    field entries keys key own take = .ok a ↔ winner.elim (some own) kind? = some a := by
  unfold field
  cases hlookup : entries.lookup key with
  | none => cases winner <;> simp [hlookup] at hshown
  | some d =>
      cases winner with
      | none =>
          have hsame : d.scalar? = byDefault.scalar? := by simpa [hlookup] using hshown
          simp [hdefault d hsame]
      | some d' =>
          have hsame : d.scalar? = d'.scalar? := by simpa [hlookup] using hshown
          exact hwinner d d' rfl hsame

section Field

variable {entries : List (String × Datum)} {keys : List String} {key : String}
variable {winner : Option Datum}

/-- A text is decided by the value that wins, or else by the default. -/
theorem field_text_eq_ok_iff {expected : Expected} {own a : String}
    (hshown : (entries.lookup key).map scalar? =
      (winner.or (some (.scalar .defaults (.text own)))).map scalar?) :
    field entries keys key own (text expected) = .ok a ↔
      winner.elim (some own) Datum.text? = some a := by
  refine field_eq_ok_iff hshown ?_ ?_
  · intro d hd
    rw [text_eq_ok_iff, Datum.text?_congr hd]
    rfl
  · intro d w hw hd
    rw [text_eq_ok_iff, Datum.text?_congr hd]

/-- So is a whole number. -/
theorem field_unsigned64_eq_ok_iff {own a : UInt64}
    (hshown : (entries.lookup key).map scalar? =
      (winner.or (some (.scalar .defaults (.unsigned own.toNat)))).map scalar?)
    (hgiven : ∀ w, winner = some w → w.IsGiven) :
    field entries keys key own unsigned64 = .ok a ↔
      winner.elim (some own) Datum.number? = some a := by
  have hsize : own.toNat < UInt64.size := own.toNat_lt
  refine field_eq_ok_iff hshown ?_ ?_
  · intro d hd
    rw [unsigned64_eq_ok_iff ((Datum.isGiven_congr hd).2 hsize), Datum.number?_congr hd]
    simp only [Datum.number?, scalar?, if_pos hsize, UInt64.ofNat_toNat]
  · intro d w hw hd
    rw [unsigned64_eq_ok_iff ((Datum.isGiven_congr hd).2 (hgiven w hw)), Datum.number?_congr hd]

/-- A choice that may be left unset is decided by the value that wins, or else it stays so. -/
theorem field_optional_eq_ok_iff {take : List String → Datum → Except LayerFault α}
    {kind? : Datum → Option α} {a : Option α}
    (hshown : (entries.lookup key).map scalar? =
      (winner.or (some (.scalar .defaults .unset))).map scalar?)
    (hgiven : ∀ w, winner = some w → w.IsGiven)
    (htake : ∀ d x, take (keys ++ [key]) d = .ok x ↔ kind? d = some x)
    (hkind : ∀ {d d' : Datum}, d.scalar? = d'.scalar? → kind? d = kind? d') :
    field entries keys key none (optional take) = .ok a ↔
      winner.elim (some none) (fun w => (kind? w).map some) = some a := by
  refine field_eq_ok_iff hshown ?_ ?_
  · intro d hd
    cases d with
    | scalar o v =>
        cases hd
        rfl
    | _ => cases hd
  · intro d w hw hd
    rw [← hkind hd]
    exact optional_eq_ok_iff ((Datum.isGiven_congr hd).2 (hgiven w hw)) (htake d)

end Field

/-- The choices are taken one by one. -/
theorem apiOfTable_eq_ok_iff {entries : List (String × Datum)} {keys : List String}
    {a : ApiSettings} :
    apiOfTable entries keys = .ok a ↔
      field entries keys "base_url" ({} : ApiSettings).baseUrl (text .text) = .ok a.baseUrl ∧
      field entries keys "timeout" ({} : ApiSettings).timeout unsigned64 = .ok a.timeout ∧
      field entries keys "user_agent" ({} : ApiSettings).userAgent (optional (text .text)) =
        .ok a.userAgent ∧
      field entries keys "ca_cert" ({} : ApiSettings).certificates (optional path) =
        .ok a.certificates := by
  unfold apiOfTable
  simp only [bind_eq_ok_iff]
  constructor
  · rintro ⟨baseUrl, hbase, certificates, hcert, timeout, htime, userAgent, hagent, h⟩
    cases h
    exact ⟨hbase, htime, hagent, hcert⟩
  · rintro ⟨hbase, htime, hagent, hcert⟩
    exact ⟨_, hbase, _, hcert, _, htime, _, hagent, rfl⟩

end Extract

/-! ### Settings -/

namespace Settings

open Datum (IsGiven IsLayer scalar?)

/-- What the settings file says: a document, with the path that messages show for it, or nothing if
there is no file. -/
inductive FileSays (s : Surroundings) (p : Path) : Path → Toml.Table → Prop
  | missing (shown : Path) (nowhere : s.files.find? s.cwd p = none) : FileSays s p shown []
  | document {found : Path} {bytes : List UInt8} {text : List Char} {t : Toml.Table}
      (here : s.files.find? s.cwd p = some found) (read : s.files.read s.cwd found = .ok bytes)
      (decoded : Utf8.decode? bytes = some text) (parsed : Toml.parse? text = some t) :
      FileSays s p (found.shownFrom s.cwd.path) t

/-- The value that decides a choice, where it is not the default: that of the last variable that
names it, or else that of the file. -/
def winning? (s : Surroundings) (shown : Path) (t : Toml.Table) (name : String) : Option Datum :=
  (s.environment.lastValue? name).or ((t.choice? name).map (Datum.ofToml (.file shown)))

/-- Each choice has the value that decides it, or else the default.  The value is a text, or a whole
number without a sign and of 64 bits. -/
structure DecidedBy (winner : String → Option Datum) (a : ApiSettings) : Prop where
  baseUrl : (winner "base_url").elim (some ({} : ApiSettings).baseUrl) Datum.text? = some a.baseUrl
  timeout : (winner "timeout").elim (some ({} : ApiSettings).timeout) Datum.number? = some a.timeout
  userAgent : (winner "user_agent").elim (some none) (fun w => w.text?.map some) = some a.userAgent
  certificates : (winner "ca_cert").elim (some none) (fun w => w.text?.map fun t => some (Path.ofText t)) =
    some a.certificates

variable {s : Surroundings} {p shown : Path} {t : Toml.Table}

theorem FileSays.inRange (file : FileSays s p shown t) : t.InRange := by
  cases file with
  | missing shown nowhere => exact Toml.Table.inRange_nil
  | document here read decoded parsed => exact Toml.parse?_inRange parsed

/-- What the file says is its layer. -/
theorem FileSays.layer (file : FileSays s p shown t) (table : t.HasChoices) :
    ∃ d, fileLayer s p = .ok d ∧ d.IsLayer ∧
      ∀ name, d.choice? name = (t.choice? name).map (Datum.ofToml (.file shown)) := by
  cases file with
  | missing shown nowhere =>
      refine ⟨.table .defaults [], ?_, ⟨⟨_, _, rfl⟩, nofun⟩, fun _ => rfl⟩
      rw [fileLayer, nowhere]
  | @document found bytes text t here read decoded parsed =>
      obtain ⟨hlayer, hchoice⟩ := Datum.isLayer_ofEntries table (.file (found.shownFrom s.cwd.path))
      refine ⟨_, ?_, hlayer, hchoice⟩
      simp only [fileLayer, here, read, documentLayer, decoded, parsed]

theorem isLayer_defaults : defaults.IsLayer := by
  refine ⟨⟨_, _, rfl⟩, fun v hv => ?_⟩
  cases hv
  exact ⟨_, _, rfl⟩

theorem winning?_isGiven (file : FileSays s p shown t) {name : String} {d : Datum}
    (h : winning? s shown t name = some d) : d.IsGiven := by
  rcases Option.or_eq_some_iff.1 h with h | ⟨-, h⟩
  · exact Environment.lastValue?_isGiven h
  · obtain ⟨v, hv, rfl⟩ := Option.map_eq_some_iff.1 h
    exact Datum.ofToml_isGiven (file.inRange.choice? hv) _

/-- **All layers over one another are a layer in which each choice has the value that decides it.** -/
theorem layers_eq (file : FileSays s p shown t) (table : t.HasChoices)
    (names : s.environment.NamesChoices) :
    ∃ d, layers s p = .ok d ∧ d.IsLayer ∧
      ∀ name, (d.choice? name).map scalar? =
        ((winning? s shown t name).or (defaults.choice? name)).map scalar? := by
  obtain ⟨d, hfile, hlayer, hchoice⟩ := file.layer table
  refine ⟨s.environment.layer.covering (d.covering defaults), ?_, ?_, ?_⟩
  · rw [layers, hfile]
    rfl
  · exact (Environment.scalar?_choice?_layer names "").1.covering (hlayer.covering isLayer_defaults)
  · intro name
    obtain ⟨henv, hvariables⟩ := Environment.scalar?_choice?_layer names name
    rw [Datum.scalar?_choice?_covering henv (hlayer.covering isLayer_defaults), Option.map_or,
      hvariables, Datum.scalar?_choice?_covering hlayer isLayer_defaults, ← Option.map_or,
      ← Option.or_assoc, hchoice]
    rfl

/-- The default of the base address is always there, so layers that show it have a table of
choices. -/
theorem exists_choices {d : Datum} (hlayer : d.IsLayer) {winner : Option Datum}
    (hbase : (d.choice? "base_url").map scalar? =
      (winner.or (defaults.choice? "base_url")).map scalar?) :
    ∃ o entries q choices, d = .table o entries ∧
      entries.lookup "api" = some (.table q choices) := by
  obtain ⟨⟨o, entries, rfl⟩, htable⟩ := hlayer
  cases hfound : entries.lookup "api" with
  | none => cases winner <;> simp [Datum.choice?, Datum.get?, hfound, defaults] at hbase
  | some v =>
      obtain ⟨q, choices, rfl⟩ := htable v hfound
      exact ⟨o, entries, q, choices, rfl, hfound⟩

/-- The choices are taken from the layers one by one, each by the value that decides it. -/
theorem ofLayers_eq_ok_iff {d : Datum} (hlayer : d.IsLayer) {winner : String → Option Datum}
    (hgiven : ∀ name w, winner name = some w → w.IsGiven)
    (hchoice : ∀ name, (d.choice? name).map scalar? =
      ((winner name).or (defaults.choice? name)).map scalar?) {a : ApiSettings} :
    ofLayers d = .ok ⟨a⟩ ↔ DecidedBy winner a := by
  obtain ⟨o, entries, q, choices, rfl, hapi⟩ := exists_choices hlayer (hchoice "base_url")
  have hshown (name : String) : (choices.lookup name).map scalar? =
      ((winner name).or (defaults.choice? name)).map scalar? := by
    rw [← hchoice name]
    simp [Datum.choice?, Datum.get?, hapi]
  have hread : ofLayers (.table o entries) = .ok ⟨a⟩ ↔
      Extract.apiOfTable choices ["api"] = .ok a := by
    rw [ofLayers, ofEntries, Extract.field, hapi]
    change (Extract.apiOfTable choices ["api"]).map Settings.mk = .ok ⟨a⟩ ↔ _
    cases Extract.apiOfTable choices ["api"] <;> simp [Except.map]
  have hfields : DecidedBy winner a ↔ _ ∧ _ ∧ _ ∧ _ :=
    ⟨fun h => ⟨h.baseUrl, h.timeout, h.userAgent, h.certificates⟩,
      fun h => ⟨h.1, h.2.1, h.2.2.1, h.2.2.2⟩⟩
  rw [hread, Extract.apiOfTable_eq_ok_iff, hfields]
  refine and_congr ?_ (and_congr ?_ (and_congr ?_ ?_))
  · exact Extract.field_text_eq_ok_iff (hshown "base_url")
  · exact Extract.field_unsigned64_eq_ok_iff (hshown "timeout") (hgiven "timeout")
  · exact Extract.field_optional_eq_ok_iff (hshown "user_agent") (hgiven "user_agent")
      (fun _ _ => Extract.text_eq_ok_iff) Datum.text?_congr
  · have hcert : Extract.field choices ["api"] "ca_cert" none (Extract.optional Extract.path) =
        .ok a.certificates ↔ _ :=
      Extract.field_optional_eq_ok_iff (hshown "ca_cert") (hgiven "ca_cert")
        (fun _ _ => Extract.path_eq_ok_iff)
        fun hd => congrArg (Option.map Path.ofText) (Datum.text?_congr hd)
    simpa only [Option.map_map, Function.comp_def] using hcert

theorem exists_elim_iff {α β : Type} {w : Option α} {own : β} {kind? : α → Option β} :
    (∃ b, w.elim (some own) kind? = some b) ↔ ∀ a, w = some a → ∃ b, kind? a = some b := by
  cases w with
  | none => simp
  | some a => simp

theorem exists_elim_map_iff {α β γ : Type} {w : Option α} {own : γ} {kind? : α → Option β}
    {put : β → γ} :
    (∃ c, w.elim (some own) (fun a => (kind? a).map put) = some c) ↔
      ∀ a, w = some a → ∃ b, kind? a = some b := by
  rw [exists_elim_iff]
  refine forall_congr' fun a => imp_congr_right fun _ => ?_
  cases kind? a <;> simp

/-- The settings that are loaded have for each choice the value that decides it. -/
theorem load_eq_ok_iff (file : FileSays s p shown t) (table : t.HasChoices)
    (names : s.environment.NamesChoices) (a : ApiSettings) :
    load s p = .ok ⟨a⟩ ↔ DecidedBy (winning? s shown t) a := by
  obtain ⟨d, hlayers, hlayer, hchoice⟩ := layers_eq file table names
  have hload : load s p = .ok ⟨a⟩ ↔ ofLayers d = .ok ⟨a⟩ := by
    have hbind : (layers s p >>= ofLayers) = ofLayers d := by
      rw [hlayers]
      rfl
    rw [load, hbind]
    cases ofLayers d <;> simp
  rw [hload]
  exact ofLayers_eq_ok_iff hlayer (fun _ _ => winning?_isGiven file) hchoice

/-- **Each choice is decided on its own.**  Where the file says nothing about the catalog but in a
table, and no variable anything about it but single choices, the settings loaded have for each
choice the value of the last variable that names it, or else that of the file, or else the default.
They are loaded exactly if each of these values is of the kind that the choice takes: a text, or a
whole number without a sign and of 64 bits. -/
theorem load_decided {s : Surroundings} {p shown : Path} {t : Toml.Table}
    (file : FileSays s p shown t) (table : t.HasChoices) (names : s.environment.NamesChoices) :
    (∀ a : ApiSettings, load s p = .ok ⟨a⟩ ↔ DecidedBy (winning? s shown t) a) ∧
    ((∃ settings, load s p = .ok settings) ↔
      (∀ w, winning? s shown t "base_url" = some w → ∃ text, w.text? = some text) ∧
      (∀ w, winning? s shown t "timeout" = some w → ∃ n, w.number? = some n) ∧
      (∀ w, winning? s shown t "user_agent" = some w → ∃ text, w.text? = some text) ∧
      ∀ w, winning? s shown t "ca_cert" = some w → ∃ text, w.text? = some text) := by
  have heach := load_eq_ok_iff file table names
  refine ⟨heach, ?_⟩
  constructor
  · rintro ⟨⟨a⟩, h⟩
    have hdecided := (heach a).1 h
    refine ⟨?_, ?_, ?_, ?_⟩
    · exact exists_elim_iff.1 ⟨_, hdecided.baseUrl⟩
    · exact exists_elim_iff.1 ⟨_, hdecided.timeout⟩
    · exact exists_elim_map_iff.1 ⟨_, hdecided.userAgent⟩
    · exact exists_elim_map_iff.1 ⟨_, hdecided.certificates⟩
  · rintro ⟨hbase, htime, hagent, hcert⟩
    obtain ⟨baseUrl, hbase⟩ := exists_elim_iff.2 hbase
    obtain ⟨timeout, htime⟩ := exists_elim_iff.2 htime
    obtain ⟨userAgent, hagent⟩ := exists_elim_map_iff.2 hagent
    obtain ⟨certificates, hcert⟩ := exists_elim_map_iff.2 hcert
    exact ⟨_, (heach ⟨baseUrl, timeout, userAgent, certificates⟩).2 ⟨hbase, htime, hagent, hcert⟩⟩

def ailingText : List Char :=
  "[api]\ntimeout = 'soon'\nuser_agent = 'x'\n\n[other]\nn = 1.5\n".toList

def ailingPath : Path := .ofText "/c"

/-- Surroundings in which a variable gives another time limit. -/
def ailing : Surroundings where
  files := ⟨[([[0x63]], .file (Utf8.encode ailingText))], []⟩
  cwd := []
  environment :=
    ⟨[("IPSW_Api__Timeout", "4"), ("ipsw_other", "y"), ("ipsw_API__timeout", "5")]⟩

theorem fileSays_ailing {t : Toml.Table} (parsed : Toml.parse? ailingText = some t) :
    FileSays ailing ailingPath (ailingPath.shownFrom (Location.path [])) t := by
  have located : ailing.files.locate [] ailingPath = .ok [[0x63]] :=
    FileTree.locate_eq_ok_iff.2 ⟨⟨by decide, by decide, by decide⟩, rfl⟩
  have decoded : Utf8.decode? (Utf8.encode ailingText) = some ailingText := by decide +kernel
  obtain ⟨find, read⟩ := FileTree.find?_read (by decide) located (by decide) rfl rfl
  exact .document find read decoded parsed

/-- Its variables name the time limit twice, and something that is no choice. -/
theorem namesChoices_ailing : ailing.environment.NamesChoices := by
  have hkeys : Environment.keys? "IPSW_Api__Timeout" = some ["api", "timeout"] ∧
      Environment.keys? "ipsw_API__timeout" = some ["api", "timeout"] ∧
      Environment.keys? "ipsw_other" = some ["other"] := by decide +kernel
  obtain ⟨hfirst, hlast, hother⟩ := hkeys
  intro v hv keys hkeys hhead
  simp only [ailing, List.mem_cons, List.not_mem_nil, or_false] at hv
  rcases hv with rfl | rfl | rfl
  · exact ⟨_, Option.some.inj (hkeys.symm.trans hfirst)⟩
  · obtain rfl : keys = ["other"] := Option.some.inj (hkeys.symm.trans hother)
    exact absurd hhead (by decide)
  · exact ⟨_, Option.some.inj (hkeys.symm.trans hlast)⟩

/-- A value of the file that a variable covers does no harm. -/
theorem load_decided_covered :
    load ailing ailingPath = .ok ⟨{ timeout := 5, userAgent := some "x" }⟩ := by
  obtain ⟨t, parsed⟩ : ∃ t, Toml.parse? ailingText = some t :=
    Option.isSome_iff_exists.1 (by decide +kernel)
  have hfile : ((Toml.parse? ailingText).bind fun t => t.choice? "base_url").isNone ∧
      ((Toml.parse? ailingText).bind fun t => t.choice? "ca_cert").isNone ∧
      (((Toml.parse? ailingText).bind fun t => t.choice? "user_agent").bind fun v =>
        (Datum.ofToml (.file (ailingPath.shownFrom (Location.path []))) v).text?) = some "x" := by
    decide +kernel
  rw [parsed, Option.bind_some, Option.bind_some, Option.bind_some, Option.isNone_iff_eq_none,
    Option.isNone_iff_eq_none] at hfile
  obtain ⟨hbase, hcert, hagent⟩ := hfile
  obtain ⟨agent, hagent, htext⟩ := Option.bind_eq_some_iff.1 hagent
  have table : t.HasChoices := .of_choice? hagent
  refine ((load_decided (fileSays_ailing parsed) table namesChoices_ailing).1 _).2 ⟨?_, ?_, ?_, ?_⟩
  · rw [winning?, show ailing.environment.lastValue? "base_url" = none from rfl, hbase]
    rfl
  · rw [winning?, show ailing.environment.lastValue? "timeout" =
      some (.scalar .environment (.unsigned 5)) from rfl]
    rfl
  · rw [winning?, show ailing.environment.lastValue? "user_agent" = none from rfl, hagent,
      Option.none_or, Option.map_some, Option.elim_some, htext]
    rfl
  · rw [winning?, show ailing.environment.lastValue? "ca_cert" = none from rfl, hcert]
    rfl

end Settings

end FirmwareCatalog
