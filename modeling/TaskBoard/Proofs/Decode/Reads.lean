import TaskBoard.Proofs.Decode.Members
import TaskBoard.Proofs.Lookup

/-!
# Values that are read back

A JSON value is met as it was written or with the members of all objects sorted by
name, and either in its place or after it was set aside.  `Decoder.Reads` says that a
decoder gives one value in all these cases.  For texts, truth values, numbers and
choices there is nothing to sort; for lists and options the law is lifted from the
values inside, and for records from the fields.
-/

namespace TaskBoard

variable {α β γ : Type}

/-! ## Forms of a value -/

/-- One JSON value is another one as it was written or with sorted members. -/
def Json.IsForm (form json : Json) : Prop := form = json ∨ form = json.sorted

namespace Json.IsForm

/-- A value without objects has one form. -/
theorem eq_of_sorted_eq {form json : Json} (isForm : form.IsForm json) (flat : json.sorted = json) :
    form = json :=
  isForm.elim id (·.trans flat)

theorem eq_null_iff {form json : Json} (isForm : form.IsForm json) :
    form = .null ↔ json = .null := by
  rcases isForm with rfl | rfl
  · exact Iff.rfl
  · cases json <;> simp [Json.sorted]

end Json.IsForm

/-- A decoder gives a value for every form of a JSON value, however it is met. -/
def Decoder.Reads (decode : Decoder α) (json : Json) (value : α) : Prop :=
  ∀ access form, form.IsForm json → decode access form = .ok value

namespace Decoder

variable {decode : Decoder α} {json : Json} {value : α}

theorem Reads.of_flat (flat : json.sorted = json)
    (decoded : ∀ access, decode access json = .ok value) : decode.Reads json value :=
  fun access _ isForm => (isForm.eq_of_sorted_eq flat).symm ▸ decoded access

/-! ## Single values -/

theorem string_reads (text : String) : Decoder.string.Reads (.string text) text :=
  .of_flat rfl fun _ => rfl

theorem bool_reads (truth : Bool) : Decoder.bool.Reads (.bool truth) truth :=
  .of_flat rfl fun _ => rfl

theorem natural_reads {limit : Nat} (name : String) (number : Bounded limit) :
    (natural limit name).Reads (.nat number.val) number :=
  .of_flat rfl fun _ => by simp [natural, Json.nat]

theorem size_reads {count : Nat} (fits : count ≤ 18446744073709551615) :
    size.Reads (.nat count) count := fun access form isForm =>
  congrArg (Except.map Bounded.val) (natural_reads "usize" ⟨count, fits⟩ access form isForm)

theorem instant_reads (instant : Instant) : Decoder.instant.Reads (.int instant.millis) instant :=
  .of_flat rfl fun _ => by rw [Decoder.instant, Instant.ofMillis?_millis]

/-- A name that denotes a choice is read as the choice. -/
theorem choice_reads {choices : List (String × α)} {name : String}
    (named : choices.lookup name = some value) : (choice choices).Reads (.string name) value :=
  .of_flat rfl fun _ => by rw [choice, pick, named]

theorem Reads.map {image : α → β} (reads : decode.Reads json value) :
    (decode.map image).Reads json (image value) := fun access form isForm =>
  congrArg (Except.map image) (reads access form isForm)

theorem Reads.check {image : α → Except ArgumentError β} {checked : β}
    (reads : decode.Reads json value) (passes : image value = .ok checked) :
    (decode.check image).Reads json checked := fun access form isForm => by
  rw [Decoder.check, reads access form isForm]
  dsimp only
  rw [passes]

/-! ## Options and lists -/

variable {write : α → Json}

/-- What may be absent is read back if what is there is, and is not written as `null`. -/
theorem option_reads (reads : ∀ value, decode.Reads (write value) value)
    (visible : ∀ value, write value ≠ .null) (value : Option α) :
    decode.option.Reads (.ofOption write value) value := by
  cases value with
  | none => exact .of_flat rfl fun _ => rfl
  | some value =>
      intro access form isForm
      have present : form ≠ .null := fun null => visible value (isForm.eq_null_iff.mp null)
      rw [option]
      · rw [reads value access form isForm]
        rfl
      · exact present

theorem items_eq_ok {forms : List Json} {values : List α} {access : Access}
    (decoded : List.Forall₂ (fun form value => decode access form = .ok value) forms values) :
    items decode access forms = .ok values := by
  induction decoded with
  | nil => rfl
  | cons first _ ih => rw [items, first, ih]

end Decoder

theorem Json.sortedItems_eq_map (items : List Json) : sortedItems items = items.map sorted := by
  induction items with
  | nil => rfl
  | cons item rest ih => rw [sortedItems, ih, List.map_cons]

/-- A list is read back if its items are. -/
theorem Decoder.list_reads {decode : Decoder α} {write : α → Json} {values : List α}
    (reads : ∀ value ∈ values, decode.Reads (write value) value) :
    (Decoder.list decode).Reads (.array (values.map write)) values := by
  intro access form isForm
  rcases isForm with rfl | rfl
  · apply items_eq_ok
    rw [List.forall₂_map_left_iff, List.forall₂_same]
    exact fun value member => reads value member access _ (.inl rfl)
  · rw [Json.sorted, Json.sortedItems_eq_map]
    apply items_eq_ok
    rw [List.forall₂_map_left_iff, List.forall₂_map_left_iff, List.forall₂_same]
    exact fun value member => reads value member access _ (.inr rfl)

/-! ## Records -/

/-- The members of an object, of different names, hold a form of every member of a list. -/
structure Holds (members : List (String × Json)) (others : List (String × Json)) : Prop where
  distinct : (others.map Prod.fst).Nodup
  exists_form : ∀ member ∈ members, ∃ form : Json, form.IsForm member.2 ∧ (member.1, form) ∈ others

namespace Holds

variable {members part others : List (String × Json)}

theorem of_subset (holds : Holds members others) (subset : part ⊆ members) : Holds part others :=
  ⟨holds.distinct, fun member isMember => holds.exists_form member (subset isMember)⟩

/-- Members of other names may be left out. -/
theorem filter (holds : Holds members others) (test : String → Bool)
    (kept : ∀ member ∈ members, test member.1 = true) :
    Holds members (others.filter fun member => test member.1) where
  distinct := holds.distinct.sublist (List.filter_sublist.map Prod.fst)
  exists_form := by
    intro member isMember
    obtain ⟨form, isForm, held⟩ := holds.exists_form member isMember
    exact ⟨form, isForm, List.mem_filter.mpr ⟨held, kept member isMember⟩⟩

/-- The members themselves and the sorted members hold the members. -/
theorem of_isForm {form : Json} (distinct : (members.map Prod.fst).Nodup)
    (isForm : form.IsForm (.object members)) :
    ∃ others, form = .object others ∧ Holds members others := by
  rcases isForm with rfl | rfl
  · exact ⟨members, rfl, distinct, fun member isMember => ⟨member.2, .inl rfl, isMember⟩⟩
  · have reordered : (Json.sortedMembers members []).Perm
        (members.map (fun member => (member.1, member.2.sorted)) ++ []) :=
      Json.sortedMembers_perm (by rwa [List.append_nil])
    rw [List.append_nil] at reordered
    refine ⟨_, by rw [Json.sorted], ?_, ?_⟩
    · rw [(reordered.map Prod.fst).nodup_iff, List.map_map]
      exact distinct
    · intro member isMember
      refine ⟨member.2.sorted, .inr rfl, reordered.mem_iff.mpr ?_⟩
      exact List.mem_map_of_mem isMember

/-- A member is the only one of its name. -/
theorem membersNamed_eq {name : String} {form : Json} (distinct : (others.map Prod.fst).Nodup)
    (held : (name, form) ∈ others) : membersNamed (· == name) others = [(name, form)] := by
  induction others with
  | nil => cases held
  | cons first rest ih =>
      rw [List.map_cons, List.nodup_cons] at distinct
      rcases List.mem_cons.mp held with rfl | behind
      · rw [membersNamed_cons_of_pos (by simp)]
        congr 1
        rw [membersNamed_eq_nil_iff]
        intro other isOther
        rw [beq_eq_false_iff_ne]
        rintro rfl
        exact distinct.1 (List.mem_map.mpr ⟨other, isOther, rfl⟩)
      · have different : first.1 ≠ name := by
          intro same
          exact distinct.1 (List.mem_map.mpr ⟨_, behind, same.symm⟩)
        rw [membersNamed, List.filter_cons_of_neg (by simpa using different)]
        exact ih distinct.2 behind

/-- A field of one name is given by the member of this name. -/
theorem gives {access : Access} {json : Json} {value : α} (holds : Holds members others)
    {field : Field α} (reads : field.decode.Reads json value) (single : field.otherNames = [])
    (position : Nat) (written : members[position]? = some (field.name, json)) :
    field.Gives access others value := by
  obtain ⟨form, isForm, held⟩ := holds.exists_form _ (List.mem_of_getElem? written)
  have named : field.covers = (· == field.name) := by
    funext name
    rw [Field.covers, single, List.contains_nil, Bool.or_false]
  have alone : membersNamed field.covers others = [(field.name, form)] := by
    rw [named]
    exact membersNamed_eq holds.distinct held
  exact .present alone (reads access form isForm)

end Holds

/-- An object is read back if it is from all members that hold its own. -/
theorem Decoder.Reads.of_holds {decode : Decoder α} {members : List (String × Json)} {value : α}
    (distinct : (members.map Prod.fst).Nodup)
    (decoded : ∀ access others, Holds members others → decode access (.object others) = .ok value) :
    decode.Reads (.object members) value := by
  intro access form isForm
  obtain ⟨others, rfl, holds⟩ := Holds.of_isForm distinct isForm
  exact decoded access others holds

/-- A record of one of several kinds is read back if the record of its kind is, from
members that were set aside. -/
theorem Decoder.tagged_reads {kinds : List (String × Decoder α)} {decode : Decoder α}
    {title tag name : String} {members : List (String × Json)} {value : α}
    (kind : kinds.lookup name = some decode)
    (distinct : (((tag, Json.string name) :: members).map Prod.fst).Nodup)
    (decoded : ∀ others, Holds members others → decode .setAside (.object others) = .ok value) :
    (tagged title tag kinds).Reads (.object ((tag, .string name) :: members)) value := by
  apply Reads.of_holds distinct
  intro access others holds
  obtain ⟨form, isForm, held⟩ := holds.exists_form _ List.mem_cons_self
  have named : others.lookup tag = some (.string name) := by
    rw [(lookup_eq_some_iff_mem holds.distinct).mpr held, isForm.eq_of_sorted_eq rfl]
  have aside : Holds members (others.filter fun member => member.1 != tag) := by
    refine (holds.of_subset (List.subset_cons_self _ _)).filter (· != tag) ?_
    intro member isMember
    rw [bne_iff_ne]
    intro same
    exact (List.nodup_cons.mp distinct).1 (List.mem_map.mpr ⟨member, isMember, same⟩)
  simp only [tagged, named, pick, kind]
  exact decoded _ aside

section Few

variable {δ : Type} {access : Access} {members : List (String × Json)} {title : String}
variable {first : Field α} {second : Field β} {third : Field γ}
variable {left : α} {middle : β} {right : γ}

/-- A record of two fields is read from an object that gives both. -/
theorem Record.decode_two_eq_ok (distinct : [first.name, second.name].Nodup)
    (givesFirst : first.Gives access members left)
    (givesSecond : second.Gives access members middle)
    (build : α → β → δ) :
    Record.decode title [first.slot, second.slot] (fun record => do
      let left ← record.read 0 first
      let middle ← record.read 1 second
      return build left middle) access (.object members) = .ok (build left middle) := by
  have fits : ∀ slot ∈ [first.slot, second.slot], slot.Fits access members := by
    simp only [List.forall_mem_cons]
    exact ⟨givesFirst.fits, givesSecond.fits, nofun⟩
  have names : ([first.slot, second.slot].map Slot.name).Nodup := distinct
  apply Record.decode_object_eq_ok names fits
  rw [givesFirst.read_eq_ok, givesSecond.read_eq_ok]
  rfl

/-- A record of three fields is read from an object that gives them. -/
theorem Record.decode_three_eq_ok (distinct : [first.name, second.name, third.name].Nodup)
    (givesFirst : first.Gives access members left)
    (givesSecond : second.Gives access members middle)
    (givesThird : third.Gives access members right) (build : α → β → γ → δ) :
    Record.decode title [first.slot, second.slot, third.slot] (fun record => do
      let left ← record.read 0 first
      let middle ← record.read 1 second
      let right ← record.read 2 third
      return build left middle right) access (.object members) = .ok (build left middle right) := by
  have fits : ∀ slot ∈ [first.slot, second.slot, third.slot], slot.Fits access members := by
    simp only [List.forall_mem_cons]
    exact ⟨givesFirst.fits, givesSecond.fits, givesThird.fits, nofun⟩
  have names : ([first.slot, second.slot, third.slot].map Slot.name).Nodup := distinct
  apply Record.decode_object_eq_ok names fits
  rw [givesFirst.read_eq_ok, givesSecond.read_eq_ok, givesThird.read_eq_ok]
  rfl

end Few

end TaskBoard
