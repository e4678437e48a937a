import GlslCompliance.Proofs.Json.Values
import Mathlib.Data.List.Nodup

/-!
# What a record accepts

A record is read into a draft, one value at a time. What a document gives for each field can also
be told from the document as a whole (`Node.values`), and the two agree:

* `Record.Keeps` says that a part of the draft belongs to one field. Every other field leaves it
  alone, so `Record.Keeps.gathered_of_drafts` can follow this part through the whole reading;
* `Record.IsLawful` says that every field of a record has such a part. A lawful record is read from
  whole documents of its form only, `Record.IsLawful.isRecord_of_drafts`, and it is read from all
  that give each field a value at most once, `Record.IsLawful.exists_drafts`.

`Record.IsLawful.accepts` puts this together for a record that is finished by its defaults.
-/

namespace GlslCompliance.Json

variable {α β γ : Type}

/-! ### The values of a field -/

/-- The values of the members of a name. -/
def Members.values (name : String) : Members → List Node
  | closed | cut => []
  | member key v rest => if key = some name then v :: rest.values name else rest.values name

/-- Every key stands for a text. -/
def Members.IsKeyed : Members → Prop
  | closed | cut => True
  | member key _ rest => key ≠ none ∧ rest.IsKeyed

/-- The values of a name among items, the names of which come in order. -/
def Items.values (name : String) : List String → Items → List Node
  | n :: names, item v rest =>
    if n = name then v :: rest.values name names else rest.values name names
  | _, _ => []

namespace Node

/-- What a record gives for a field: by its name in an object, by its position in an array. -/
def values (names : List String) (v : Node) (name : String) : List Node :=
  match v with
  | .array items => items.values name names
  | .object members => members.values name
  | _ => []

/-- An object, or an array of no more items than there are fields. -/
def IsRecord (names : List String) : Node → Prop
  | .array items => items.toList.length ≤ names.length
  | .object members => members.IsKeyed
  | _ => False

/-- One member in front adds its value to those of its name. -/
theorem values_record_cons (names : List String) (m : String × Node) (ms : List (String × Node))
    (name : String) : (record (m :: ms)).values names name =
      if m.1 = name then m.2 :: (record ms).values names name
      else (record ms).values names name := by
  simp only [record, values, List.foldr_cons, Members.values, Option.some.injEq]

/-- The values of a name in two lists of members are those in the one, then those in the other. -/
theorem values_record_append (names : List String) (ms ms' : List (String × Node))
    (name : String) : (record (ms ++ ms')).values names name =
      (record ms).values names name ++ (record ms').values names name := by
  induction ms with
  | nil => rfl
  | cons m ms ih =>
    rw [List.cons_append, values_record_cons, values_record_cons, ih]
    split <;> rfl

/-- An object that was put together is a record, whatever names its members have. -/
theorem isRecord_record (names : List String) (ms : List (String × Node)) :
    (record ms).IsRecord names := by
  induction ms with
  | nil => trivial
  | cons m ms ih => exact ⟨nofun, ih⟩

end Node

/-- A field that takes a default where it is absent. It is not given twice. -/
def Defaulted (P : Node → γ → Prop) (default : γ) : List Node → γ → Prop
  | [], c => c = default
  | [v], c => P v c
  | _, _ => False

/-- A field that is given exactly once. -/
def Required (P : Node → γ → Prop) : List Node → γ → Prop
  | [v], c => P v c
  | _, _ => False

/-- A field that has to be there is one with a default that is not made use of. -/
theorem Required.defaulted {P : Node → γ → Prop} {vs : List Node} {c : γ} (h : Required P vs c)
    (default : γ) : Defaulted P default vs c := by
  match vs with
  | [] | _ :: _ :: _ => exact h.elim
  | [_] => exact h

/-! ### One field -/

/-- What a draft has of a field before and after the values that are given for it. -/
inductive Gathered (P : Node → γ → Prop) : List Node → Option γ → Option γ → Prop
  | absent {c? : Option γ} : Gathered P [] c? c?
  | given {v : Node} {c : γ} : v.isWhole = true → P v c → Gathered P [v] none (some c)

/-- The values given for a field can be put into a draft. -/
inductive Field.Takes (f : Field β) (draft : β) : List Node → Prop
  | absent : Takes f draft []
  | given {v : Node} :
      f.isFilled draft = false → (∀ d, ∃ d', f.fill v d = .ok d') → Takes f draft [v]

/-- Filling a field leaves a part of the draft as it is. -/
def Field.Leaves (f : Field β) (get : β → Option γ) : Prop :=
  ∀ v d d', f.fill v d = .ok d' → get d' = get d

@[simp] theorem Field.name_of {name : String} {get : β → Option γ} {set : γ → β → β}
    {value : Decoder γ} : (Field.of name get set value).name = name := rfl

/-- What is kept elsewhere is left as it is. -/
theorem Field.leaves_of {δ : Type} {name : String} {get : β → Option γ} {get' : β → Option δ}
    {set : δ → β → β} {value : Decoder δ} (hset : ∀ c d, get (set c d) = get d) :
    (Field.of name get' set value).Leaves get := by
  intro v d d' hfill
  obtain ⟨c, -, hd'⟩ := bind_eq_ok_iff.mp hfill
  exact Except.ok.inj hd' ▸ hset c d

namespace Record

/-- The names of the fields. -/
def names (r : Record α β) : List String := r.fields.map Field.name

/-- A field of a record with its part of a draft. There `get` finds the value that was read, and no
other field touches it. -/
structure Keeps (r : Record α β) (f : Field β) (get : β → Option γ) (P : Node → γ → Prop) :
    Prop where
  mem : f ∈ r.fields
  blank : get r.blank = none
  isFilled_eq : ∀ d, f.isFilled d = (get d).isSome
  get_of_fill : ∀ v d d', f.fill v d = .ok d' →
    v.isWhole = true ∧ ∃ c, P v c ∧ get d' = some c
  exists_fill : ∀ v c, v.isWhole = true → P v c → ∀ d, ∃ d', f.fill v d = .ok d'
  unique : ∀ v c c', v.isWhole = true → P v c → P v c' → c = c'
  leaves_of_other : ∀ g ∈ r.fields, g.name ≠ f.name → g.Leaves get

/-- The fields have names of their own and parts of their own in a draft. -/
structure IsLawful (r : Record α β) : Prop where
  nodup : r.names.Nodup
  keeps : ∀ f ∈ r.fields, ∃ (γ : Type) (get : β → Option γ) (P : Node → γ → Prop), r.Keeps f get P

variable {r : Record α β} {f g : Field β} {get : β → Option γ} {P : Node → γ → Prop}

/-- A field that a draft keeps as an option has its part there. -/
theorem Keeps.of {name : String} {set : γ → β → β} {value : Decoder γ} (h : Accepts value P)
    (hmem : .of name get set value ∈ r.fields) (hblank : get r.blank = none)
    (hset : ∀ c d, get (set c d) = some c)
    (hleaves : ∀ g ∈ r.fields, g.name ≠ name → g.Leaves get) :
    r.Keeps (.of name get set value) get P where
  mem := hmem
  blank := hblank
  isFilled_eq _ := rfl
  get_of_fill v d d' hfill := by
    obtain ⟨c, hc, hd'⟩ := bind_eq_ok_iff.mp hfill
    obtain rfl := Except.ok.inj hd'
    obtain ⟨hv, hp⟩ := (h v c).mp hc
    exact ⟨hv, c, hp, hset c d⟩
  exists_fill v c hv hp d := ⟨set c d, bind_eq_ok_iff.mpr ⟨c, (h v c).mpr ⟨hv, hp⟩, rfl⟩⟩
  unique _ _ _ hv hc hc' := h.unique hv hc hc'
  leaves_of_other := hleaves

/-- No two fields of a record share a name. -/
theorem IsLawful.eq_of_name_eq (hr : r.IsLawful) (hf : f ∈ r.fields) (hg : g ∈ r.fields)
    (h : f.name = g.name) : f = g :=
  List.inj_on_of_nodup_map hr.nodup hf hg h

theorem IsLawful.isWhole_of_fill (hr : r.IsLawful) (hf : f ∈ r.fields) {v : Node} {d d' : β}
    (h : f.fill v d = .ok d') : v.isWhole = true := by
  obtain ⟨_, get, P, hk⟩ := hr.keeps f hf
  exact (hk.get_of_fill v d d' h).1

/-- A field is not filled by another. -/
theorem IsLawful.isFilled_of_other (hr : r.IsLawful) (hf : f ∈ r.fields) (hg : g ∈ r.fields)
    (hne : g.name ≠ f.name) {v : Node} {d d' : β} (h : g.fill v d = .ok d') :
    f.isFilled d' = f.isFilled d := by
  obtain ⟨_, get, P, hk⟩ := hr.keeps f hf
  rw [hk.isFilled_eq, hk.isFilled_eq, hk.leaves_of_other g hg hne v d d' h]

/-! ### Objects -/

/-- A member of another name is passed over, as long as it is whole. -/
theorem fillMembers_unknown {fields : List (Field β)} {key : String}
    (hnone : fields.find? (fun f => f.name == key) = none) {v : Node} {rest : Members}
    {d : β} :
    fillMembers fields (.member (some key) v rest) d =
      if v.isWhole = true then fillMembers fields rest d else .error .malformed := by
  rw [fillMembers, hnone]

/-- A member fills the field of its name, which has to be empty up to then. -/
theorem fillMembers_known {fields : List (Field β)} {key : String}
    (hsome : fields.find? (fun f => f.name == key) = some f) {v : Node}
    {rest : Members} {d d' : β} :
    fillMembers fields (.member (some key) v rest) d = .ok d' ↔
      f.isFilled d = false ∧ ∃ d₁, f.fill v d = .ok d₁ ∧ fillMembers fields rest d₁ = .ok d' := by
  rw [fillMembers, hsome]
  cases hf : f.isFilled d with
  | true => simp [hf]
  | false => simp [hf, bind_eq_ok_iff]

theorem name_ne_of_find?_eq_none {fields : List (Field β)} {key : String}
    (h : fields.find? (fun f => f.name == key) = none) (hf : f ∈ fields) : key ≠ f.name := by
  rintro rfl
  exact List.find?_eq_none.mp h f hf (beq_self_eq_true f.name)

theorem mem_and_name_of_find? {fields : List (Field β)} {key : String}
    (h : fields.find? (fun f => f.name == key) = some f) : f ∈ fields ∧ f.name = key :=
  ⟨List.mem_of_find?_eq_some h, by simpa using List.find?_some h⟩

theorem values_member_of_ne {key name : String} (h : key ≠ name) (v : Node) (rest : Members) :
    (Members.member (some key) v rest).values name = rest.values name := by
  rw [Members.values, if_neg fun he => h (Option.some.inj he)]

theorem values_member_self (key : String) (v : Node) (rest : Members) :
    (Members.member (some key) v rest).values key = v :: rest.values key := by
  rw [Members.values, if_pos rfl]

/-- Members fill a field as their values say, whatever else they fill. -/
theorem Keeps.gathered_fillMembers (hr : r.IsLawful) (hk : r.Keeps f get P)
    {members : Members} {d d' : β} (h : fillMembers r.fields members d = .ok d') :
    Gathered P (members.values f.name) (get d) (get d') := by
  match members with
  | .closed => exact Except.ok.inj h ▸ .absent
  | .cut | .member none _ _ => exact nomatch h
  | .member (some key) v rest =>
    cases hfind : r.fields.find? fun f => f.name == key with
    | none =>
      rw [fillMembers_unknown hfind] at h
      rw [values_member_of_ne (name_ne_of_find?_eq_none hfind hk.mem)]
      split at h
      · exact hk.gathered_fillMembers hr h
      · exact nomatch h
    | some g =>
      obtain ⟨hg, rfl⟩ := mem_and_name_of_find? hfind
      obtain ⟨hempty, d₁, hfill, hrest⟩ := (fillMembers_known hfind).mp h
      have hbehind := hk.gathered_fillMembers hr hrest
      by_cases hname : g.name = f.name
      · obtain rfl := hr.eq_of_name_eq hg hk.mem hname
        obtain ⟨hv, c, hp, hget⟩ := hk.get_of_fill v d d₁ hfill
        have hnone : get d = none := by simpa [hk.isFilled_eq] using hempty
        rw [values_member_self, hnone]
        rw [hget] at hbehind
        -- The field is filled now, so there is no second value for it.
        generalize rest.values g.name = vs, get d' = c? at hbehind
        cases hbehind with
        | absent => exact .given hv hp
      · rw [values_member_of_ne hname, ← hk.leaves_of_other g hg hname v d d₁ hfill]
        exact hbehind

/-- Members that are read are whole, and their keys are texts. -/
theorem IsLawful.isWhole_of_fillMembers (hr : r.IsLawful) {members : Members} {d d' : β}
    (h : fillMembers r.fields members d = .ok d') : members.isWhole = true ∧ members.IsKeyed := by
  match members with
  | .closed => exact ⟨rfl, trivial⟩
  | .cut | .member none _ _ => exact nomatch h
  | .member (some key) v rest =>
    rw [Members.isWhole, Bool.and_eq_true]
    cases hfind : r.fields.find? fun f => f.name == key with
    | none =>
      rw [fillMembers_unknown hfind] at h
      split at h
      · next hv =>
        obtain ⟨hrest, hkeys⟩ := hr.isWhole_of_fillMembers h
        exact ⟨⟨hv, hrest⟩, nofun, hkeys⟩
      · exact nomatch h
    | some g =>
      obtain ⟨hg, -⟩ := mem_and_name_of_find? hfind
      obtain ⟨-, d₁, hfill, h⟩ := (fillMembers_known hfind).mp h
      obtain ⟨hrest, hkeys⟩ := hr.isWhole_of_fillMembers h
      exact ⟨⟨hr.isWhole_of_fill hg hfill, hrest⟩, nofun, hkeys⟩

/-- Members are read if every field takes the values that they give it. -/
theorem IsLawful.exists_fillMembers (hr : r.IsLawful) {members : Members} {d : β}
    (hw : members.isWhole = true) (hkeys : members.IsKeyed)
    (htakes : ∀ f ∈ r.fields, f.Takes d (members.values f.name)) :
    ∃ d', fillMembers r.fields members d = .ok d' := by
  match members with
  | .closed => exact ⟨d, rfl⟩
  | .cut => exact absurd hw Bool.false_ne_true
  | .member none _ _ => exact absurd rfl hkeys.1
  | .member (some key) v rest =>
    obtain ⟨hv, hrest⟩ := Bool.and_eq_true _ _ ▸ hw
    cases hfind : r.fields.find? fun f => f.name == key with
    | none =>
      rw [fillMembers_unknown hfind, if_pos hv]
      refine hr.exists_fillMembers hrest hkeys.2 fun f hf => ?_
      have h := htakes f hf
      rwa [values_member_of_ne (name_ne_of_find?_eq_none hfind hf)] at h
    | some g =>
      obtain ⟨hg, rfl⟩ := mem_and_name_of_find? hfind
      have h := htakes g hg
      rw [values_member_self] at h
      generalize hvs : rest.values g.name = vs at h
      obtain - | ⟨hempty, hfill⟩ := h
      obtain ⟨d₁, hd₁⟩ := hfill d
      -- Behind this member the field takes nothing more, and the others are where they were.
      have hbehind : ∀ f ∈ r.fields, f.Takes d₁ (rest.values f.name) := by
        intro f hf
        by_cases hname : g.name = f.name
        · rw [← hname, hvs]
          exact .absent
        · have h := htakes f hf
          rw [values_member_of_ne hname] at h
          generalize rest.values f.name = ws at h
          cases h with
          | absent => exact .absent
          | given hnot hfill =>
            exact .given ((hr.isFilled_of_other hf hg hname hd₁).trans hnot) hfill
      obtain ⟨d', hd'⟩ := hr.exists_fillMembers hrest hkeys.2 hbehind
      exact ⟨d', (fillMembers_known hfind).mpr ⟨hempty, d₁, hd₁, hd'⟩⟩

/-! ### Arrays -/

/-- The items of an array fill the fields one after the other. -/
theorem fillItems_item {fields : List (Field β)} {v : Node} {rest : Items} {d d' : β} :
    fillItems (g :: fields) (.item v rest) d = .ok d' ↔
      ∃ d₁, g.fill v d = .ok d₁ ∧ fillItems fields rest d₁ = .ok d' := bind_eq_ok_iff

theorem values_item_of_ne {name : String} {names : List String} (h : g.name ≠ name) (v : Node)
    (rest : Items) :
    (Items.item v rest).values name (g.name :: names) = rest.values name names := by
  rw [Items.values, if_neg h]

theorem values_item_self (g : Field β) (names : List String) (v : Node) (rest : Items) :
    (Items.item v rest).values g.name (g.name :: names) = v :: rest.values g.name names := by
  rw [Items.values, if_pos rfl]

/-- An array gives nothing for a name that is not among those of its items. -/
theorem values_eq_nil_of_notMem {name : String} {names : List String} (h : name ∉ names)
    (items : Items) : items.values name names = [] := by
  induction names generalizing items with
  | nil => rw [Items.values]; nofun
  | cons n names ih =>
    obtain ⟨hne, hnot⟩ := not_or.mp (List.mem_cons.not.mp h)
    cases items with
    | closed | cut => rfl
    | item v rest =>
      rw [Items.values, if_neg fun he => hne he.symm]
      exact ih hnot rest

/-- Items fill a field as its value says, whatever else they fill. -/
theorem Keeps.gathered_fillItems (hr : r.IsLawful) (hk : r.Keeps f get P)
    {fields : List (Field β)} (hfields : ∀ g ∈ fields, g ∈ r.fields)
    (hnodup : (fields.map Field.name).Nodup) {items : Items} {d d' : β}
    (hnone : f.name ∈ fields.map Field.name → get d = none)
    (h : fillItems fields items d = .ok d') :
    Gathered P (items.values f.name (fields.map Field.name)) (get d) (get d') := by
  induction fields generalizing items d with
  | nil =>
    cases items with
    | closed => exact Except.ok.inj h ▸ .absent
    | cut | item => exact nomatch h
  | cons g fields ih =>
    cases items with
    | closed => exact Except.ok.inj h ▸ .absent
    | cut => exact nomatch h
    | item v rest =>
      obtain ⟨d₁, hfill, hrest⟩ := fillItems_item.mp h
      obtain ⟨hg, hfields⟩ := List.forall_mem_cons.mp hfields
      obtain ⟨hnot, hnodup⟩ := List.nodup_cons.mp hnodup
      by_cases hname : g.name = f.name
      · obtain rfl := hr.eq_of_name_eq hg hk.mem hname
        obtain ⟨hv, c, hp, hget⟩ := hk.get_of_fill v d d₁ hfill
        have hbehind := ih hfields hnodup (fun hm => absurd hm hnot) hrest
        rw [List.map_cons, values_item_self, hnone List.mem_cons_self,
          values_eq_nil_of_notMem hnot]
        rw [values_eq_nil_of_notMem hnot, hget] at hbehind
        generalize get d' = c? at hbehind
        cases hbehind with
        | absent => exact .given hv hp
      · have hget := hk.leaves_of_other g hg hname v d d₁ hfill
        rw [List.map_cons, values_item_of_ne hname, ← hget]
        refine ih hfields hnodup (fun hm => ?_) hrest
        exact hget.trans (hnone (List.mem_cons_of_mem _ hm))

/-- Items that are read are whole, and no more than there are fields. -/
theorem IsLawful.isWhole_of_fillItems (hr : r.IsLawful) {fields : List (Field β)}
    (hfields : ∀ g ∈ fields, g ∈ r.fields) {items : Items} {d d' : β}
    (h : fillItems fields items d = .ok d') :
    items.isWhole = true ∧ items.toList.length ≤ fields.length := by
  induction fields generalizing items d with
  | nil =>
    cases items with
    | closed => exact ⟨rfl, Nat.le_refl 0⟩
    | cut | item => exact nomatch h
  | cons g fields ih =>
    cases items with
    | closed => exact ⟨rfl, Nat.zero_le _⟩
    | cut => exact nomatch h
    | item v rest =>
      obtain ⟨d₁, hfill, hrest⟩ := fillItems_item.mp h
      obtain ⟨hg, hfields⟩ := List.forall_mem_cons.mp hfields
      obtain ⟨hwhole, hlength⟩ := ih hfields hrest
      exact ⟨Bool.and_eq_true _ _ ▸ ⟨hr.isWhole_of_fill hg hfill, hwhole⟩,
        Nat.succ_le_succ hlength⟩

/-- Items are read if every field can be filled with the values that they give it. -/
theorem exists_fillItems {fields : List (Field β)} {items : Items} {d : β}
    (hw : items.isWhole = true) (hlength : items.toList.length ≤ fields.length)
    (hfill : ∀ f ∈ fields, ∀ v ∈ items.values f.name (fields.map Field.name),
      ∀ d, ∃ d', f.fill v d = .ok d') :
    ∃ d', fillItems fields items d = .ok d' := by
  induction fields generalizing items d with
  | nil =>
    cases items with
    | closed => exact ⟨d, rfl⟩
    | cut => exact absurd hw Bool.false_ne_true
    | item v rest => exact absurd hlength (Nat.not_succ_le_zero _)
  | cons g fields ih =>
    cases items with
    | closed => exact ⟨d, rfl⟩
    | cut => exact absurd hw Bool.false_ne_true
    | item v rest =>
      have hfirst := hfill g List.mem_cons_self v
      rw [List.map_cons, values_item_self] at hfirst
      obtain ⟨d₁, hd₁⟩ := hfirst List.mem_cons_self d
      obtain ⟨-, hrest⟩ := Bool.and_eq_true _ _ ▸ hw
      obtain ⟨d', hd'⟩ := ih (d := d₁) hrest (Nat.le_of_succ_le_succ hlength) fun f hf w hw => by
        refine hfill f (List.mem_cons_of_mem g hf) w ?_
        rw [List.map_cons, Items.values]
        split
        · exact List.mem_cons_of_mem v hw
        · exact hw
      exact ⟨d', fillItems_item.mpr ⟨d₁, hd₁, hd'⟩⟩

/-! ### Both forms -/

/-- A document is read into a draft. -/
def Drafts (r : Record α β) (v : Node) (d : β) : Prop :=
  match v with
  | .array items => fillItems r.fields items r.blank = .ok d
  | .object members => fillMembers r.fields members r.blank = .ok d
  | _ => False

theorem mapError_eq_ok_iff {ε ε' : Type} {x : Except ε α} {w : ε → ε'} {a : α} :
    x.mapError w = .ok a ↔ x = .ok a := by
  cases x <;> simp [Except.mapError]

/-- A record is read by way of its draft. -/
theorem decoder_eq_ok_iff {v : Node} {a : α} :
    r.decoder v = .ok a ↔ ∃ d, r.Drafts v d ∧ r.finish d = .ok a := by
  cases v with
  | array | object => exact bind_eq_ok_iff.trans (by simp only [mapError_eq_ok_iff]; rfl)
  | _ => exact ⟨nofun, fun ⟨_, h, _⟩ => h.elim⟩

/-- **One field.** A draft has of a field what the document gives for it. -/
theorem Keeps.gathered_of_drafts (hr : r.IsLawful) (hk : r.Keeps f get P) {v : Node}
    {d : β} (h : r.Drafts v d) : Gathered P (v.values r.names f.name) none (get d) := by
  rw [← hk.blank]
  cases v with
  | array items =>
    exact hk.gathered_fillItems hr (fun _ hg => hg) hr.nodup (fun _ => hk.blank) h
  | object members => exact hk.gathered_fillMembers hr h
  | _ => exact h.elim

/-- **All fields.** A draft comes from a whole document in the form of a record, … -/
theorem IsLawful.isRecord_of_drafts (hr : r.IsLawful) {v : Node} {d : β} (h : r.Drafts v d) :
    v.isWhole = true ∧ v.IsRecord r.names := by
  cases v with
  | array items =>
    obtain ⟨hw, hlength⟩ := hr.isWhole_of_fillItems (fun _ hg => hg) h
    exact ⟨hw, by rwa [Node.IsRecord, names, List.length_map]⟩
  | object members => exact hr.isWhole_of_fillMembers h
  | _ => exact h.elim

/-- … and there is one for each such document of which every field takes its values. -/
theorem IsLawful.exists_drafts (hr : r.IsLawful) {v : Node} (hw : v.isWhole = true)
    (hv : v.IsRecord r.names)
    (htakes : ∀ f ∈ r.fields, f.Takes r.blank (v.values r.names f.name)) :
    ∃ d, r.Drafts v d := by
  cases v with
  | array items =>
    rw [Node.IsRecord, names, List.length_map] at hv
    refine exists_fillItems hw hv fun f hf w hw => ?_
    have h := htakes f hf
    rw [Node.values, names] at h
    generalize items.values f.name (r.fields.map Field.name) = vs at h hw
    cases h with
    | absent => exact nomatch hw
    | given _ hfill => exact List.mem_singleton.mp hw ▸ hfill
  | object members => exact hr.exists_fillMembers hw hv htakes
  | _ => exact hv.elim

end Record

/-! ### Finishing a record -/

theorem Items.isWhole_of_mem_values {name : String} {names : List String} {items : Items}
    (hw : items.isWhole = true) {v : Node} (h : v ∈ items.values name names) :
    v.isWhole = true := by
  induction names generalizing items with
  | nil => cases items <;> exact nomatch h
  | cons n names ih =>
    cases items with
    | closed | cut => exact nomatch h
    | item w rest =>
      obtain ⟨hv, hrest⟩ := Bool.and_eq_true _ _ ▸ hw
      rw [Items.values] at h
      split at h
      · exact (List.mem_cons.mp h).elim (fun he => he ▸ hv) (ih hrest)
      · exact ih hrest h

theorem Members.isWhole_of_mem_values {name : String} {members : Members}
    (hw : members.isWhole = true) {v : Node} (h : v ∈ members.values name) :
    v.isWhole = true := by
  cases members with
  | closed | cut => exact nomatch h
  | member key w rest =>
    obtain ⟨hv, hrest⟩ := Bool.and_eq_true _ _ ▸ hw
    rw [Members.values] at h
    split at h
    · exact (List.mem_cons.mp h).elim (fun he => he ▸ hv) (Members.isWhole_of_mem_values hrest)
    · exact Members.isWhole_of_mem_values hrest h

/-- In a whole document, what stands for a field is whole. -/
theorem Node.isWhole_of_mem_values {name : String} {names : List String} {v w : Node}
    (hv : v.isWhole = true) (h : w ∈ v.values names name) : w.isWhole = true := by
  cases v with
  | array items => exact Items.isWhole_of_mem_values hv h
  | object members => exact Members.isWhole_of_mem_values hv h
  | _ => exact nomatch h

namespace Record.Keeps

variable {r : Record α β} {f : Field β} {get : β → Option γ} {P : Node → γ → Prop}

theorem isFilled_blank (hk : r.Keeps f get P) : f.isFilled r.blank = false := by
  rw [hk.isFilled_eq, hk.blank]
  rfl

/-- A field that is given at most once takes what it is given. -/
theorem takes_of_defaulted (hk : r.Keeps f get P) {default c : γ} {v : Node}
    (hv : v.isWhole = true) (h : Defaulted P default (v.values r.names f.name) c) :
    f.Takes r.blank (v.values r.names f.name) := by
  have hwhole : ∀ w ∈ v.values r.names f.name, w.isWhole = true :=
    fun _ => Node.isWhole_of_mem_values hv
  generalize v.values r.names f.name = vs at h hwhole
  match vs with
  | [] => exact .absent
  | [w] => exact .given hk.isFilled_blank (hk.exists_fill w c (hwhole w (.head [])) h)
  | _ :: _ :: _ => exact h.elim

/-- So does a field that is given exactly once. -/
theorem takes_of_required (hk : r.Keeps f get P) {c : γ} {v : Node} (hv : v.isWhole = true)
    (h : Required P (v.values r.names f.name) c) : f.Takes r.blank (v.values r.names f.name) :=
  hk.takes_of_defaulted hv (h.defaulted c)

/-- The part of a draft that belongs to a field is finished by the default of the field. -/
theorem defaulted_iff (hr : r.IsLawful) (hk : r.Keeps f get P) {v : Node} {d : β}
    (h : r.Drafts v d) (default c : γ) :
    Defaulted P default (v.values r.names f.name) c ↔ (get d).getD default = c := by
  have hgathered := hk.gathered_of_drafts hr h
  generalize v.values r.names f.name = vs, get d = c? at hgathered
  cases hgathered with
  | absent => exact eq_comm
  | @given w b hw hb => exact ⟨hk.unique w b c hw hb, fun he => he ▸ hb⟩

/-- Without a default it has to be there. -/
theorem required_iff (hr : r.IsLawful) (hk : r.Keeps f get P) {v : Node} {d : β}
    (h : r.Drafts v d) (c : γ) :
    Required P (v.values r.names f.name) c ↔ get d = some c := by
  have hgathered := hk.gathered_of_drafts hr h
  generalize v.values r.names f.name = vs, get d = c? at hgathered
  cases hgathered with
  | absent => exact ⟨False.elim, nofun⟩
  | @given w b hw hb =>
    exact ⟨fun hc => congrArg some (hk.unique w b c hw hb hc), fun he => Option.some.inj he ▸ hb⟩

end Record.Keeps

/-- **A record.** A relation that the fields of a draft decide is the one that a record accepts. -/
theorem Record.IsLawful.accepts {r : Record α β} (hr : r.IsLawful) {P : Node → α → Prop}
    (hfinish : ∀ v d a, v.IsRecord r.names → r.Drafts v d → (r.finish d = .ok a ↔ P v a))
    (hrecord : ∀ v a, P v a → v.IsRecord r.names)
    (htakes : ∀ v a, v.isWhole = true → P v a →
      ∀ f ∈ r.fields, f.Takes r.blank (v.values r.names f.name)) :
    Accepts r.decoder P := by
  intro v a
  rw [Record.decoder_eq_ok_iff]
  constructor
  · rintro ⟨d, hd, ha⟩
    obtain ⟨hw, hv⟩ := hr.isRecord_of_drafts hd
    exact ⟨hw, (hfinish v d a hv hd).mp ha⟩
  · rintro ⟨hw, hp⟩
    have hv := hrecord v a hp
    obtain ⟨d, hd⟩ := hr.exists_drafts hw hv (htakes v a hw hp)
    exact ⟨d, hd, (hfinish v d a hv hd).mpr hp⟩

end GlslCompliance.Json
