import PromptTemplate.Proofs.Settings.InPlace
import PromptTemplate.Proofs.Settings.Record
import PromptTemplate.Proofs.Text.Numerals

set_option autoImplicit false

namespace PromptTemplate.Settings

/-- The kinds of failures: a complaint about what is given, a price that overflows, and the two obstacles in writing. -/
inductive FailureKind where
  | complaint
  | overflow
  | digits
  | depth
  deriving DecidableEq, Repr

variable (room : Nat) (formula : Formula.Evaluator)

def kindOf : Failure Fault → FailureKind
  | .fault (.price .beyondFloat) => .overflow
  | .fault _ => .complaint
  | .unwritable value =>
    match value.obstacle? room with
    | some .depth => .depth
    | _ => .digits

/-- No two keys denote the same field. -/
def NamesOnce (pairs : List (Value × Value)) : Prop :=
  pairs.Pairwise fun first second => ∀ field, Denotes room first.1 field → ¬ Denotes room second.1 field

/-- An entry with the same value, under the same key or another that denotes the same field. -/
def Respelled (first second : Value × Value) : Prop :=
  first.2 = second.2 ∧ (first.1 = second.1 ∨ ∃ field, Denotes room first.1 field ∧ Denotes room second.1 field)

/-- A map with its entries in another order and under other spellings. -/
def Respells (pairs others : List (Value × Value)) : Prop :=
  ∃ reordered, pairs.Perm reordered ∧ List.Forall₂ (Respelled room) reordered others

/-- All keys that denote no field fail in the same way. -/
def KeysFailAlike (pairs : List (Value × Value)) : Prop :=
  ∀ first ∈ pairs, ∀ second ∈ pairs, ∀ failure other, keyFailure? room first.1 = some failure →
    keyFailure? room second.1 = some other → kindOf room failure = kindOf room other

def Gives (pairs : List (Value × Value)) (field : Field) (value : Value) : Prop :=
  ∃ key, (key, value) ∈ pairs ∧ Denotes room key field

def HasThreshold (pairs : List (Value × Value)) (field : Field) (n : Int) : Prop :=
  Gives room pairs field (.int n) ∨ (∀ value, ¬ Gives room pairs field value) ∧ value {} field = .int n

structure IsAcceptable (pairs : List (Value × Value)) : Prop where
  named : ∀ entry ∈ pairs, ∃ field, Denotes room entry.1 field
  limits : ∀ field ∈ Field.limits, ∀ value, Gives room pairs field value → ∃ n : Int, value = .int n ∧ 1 ≤ n
  flags : ∀ field ∈ Field.flags, ∀ value, Gives room pairs field value → ∃ b, value = .bool b
  price : ∀ value, Gives room pairs .perUnitCost value →
    value = .null ∨ ∃ price, Price.read room formula .ok value = .ok price
  thresholds : ∀ warn danger, HasThreshold room pairs .warnThreshold warn →
    HasThreshold room pairs .dangerThreshold danger → warn ≤ danger

variable {room formula} {pairs others : List (Value × Value)}

/-! ### What a map gives -/

theorem readGiven_congr {given other : Assoc Field Value} (same : ∀ field, given.get? field = other.get? field) :
    readGiven room formula given = readGiven room formula other := by
  have limits : checkLimit given = checkLimit other := by
    funext field
    rw [checkLimit, checkLimit, same]
  have flags : checkFlag given = checkFlag other := by
    funext field
    rw [checkFlag, checkFlag, same]
  have price : readPrice room formula given = readPrice room formula other := by
    rw [readPrice, readPrice, same]
  have fields : ofFields given = ofFields other := by
    funext price
    simp only [ofFields, limitOr, flagOr, same]
  rw [readGiven, readGiven, limits, flags, price, fields]

theorem lastGiven?_eq_some_iff (once : NamesOnce room pairs)
    (named : ∀ entry ∈ pairs, ∃ field, Denotes room entry.1 field) {field : Field} {value : Value} :
    lastGiven? pairs field = some value ↔ Gives room pairs field value := by
  constructor
  · intro given
    obtain ⟨key, member, names⟩ := mem_of_lastGiven? given
    obtain ⟨_, writable, _⟩ := named _ member
    exact ⟨key, member, writable, names⟩
  · rintro ⟨key, member, denotes⟩
    induction pairs with
    | nil => cases member
    | cons entry rest ih =>
        obtain ⟨front, others⟩ := List.pairwise_cons.mp once
        rw [List.forall_mem_cons] at named
        rw [lastGiven?_cons]
        rcases List.mem_cons.mp member with rfl | behind
        · have single : lastGiven? rest field = none := by
            refine lastGiven?_eq_none_iff.mpr fun later among names => ?_
            obtain ⟨_, writable, _⟩ := named.2 later among
            exact front later among field denotes ⟨writable, names⟩
          exact (congrArg (Option.or · _) single).trans (if_pos denotes.2)
        · rw [ih others named.2 behind, Option.some_or]

theorem NamesOnce.perm (once : NamesOnce room pairs) (perm : pairs.Perm others) : NamesOnce room others :=
  perm.pairwise once fun apart field named also => apart field also named

/-- What an entry says: the field that it is for, and the value. -/
def reading (entry : Value × Value) : Option Field × Value :=
  (Field.ofKey? entry.1.plain, entry.2)

theorem Respelled.reading_eq {first second : Value × Value} (respelled : Respelled room first second) :
    reading first = reading second := by
  obtain ⟨value, same | ⟨field, ⟨_, named⟩, _, also⟩⟩ := respelled
  · rw [reading, reading, value, same]
  · rw [reading, reading, value, named, also]

theorem map_reading_of_respelled (respelled : List.Forall₂ (Respelled room) pairs others) :
    pairs.map reading = others.map reading := by
  induction respelled with
  | nil => rfl
  | cons here _ ih => rw [List.map_cons, List.map_cons, here.reading_eq, ih]

theorem lastGiven?_eq_find? (pairs : List (Value × Value)) (field : Field) :
    lastGiven? pairs field = ((pairs.map reading).reverse.find? (·.1 == some field)).map (·.2) := by
  rw [lastGiven?, ← List.map_reverse, List.find?_map, Option.map_map]
  rfl

/-! ### Keys that denote no field -/

/-- A key that denotes no field is not spelled in another way. -/
theorem Respelled.keyFailure?_eq {first second : Value × Value} (respelled : Respelled room first second) :
    keyFailure? room first.1 = keyFailure? room second.1 := by
  obtain ⟨_, same | ⟨field, named, also⟩⟩ := respelled
  · rw [same]
  · rw [keyFailure?_eq_none_iff.mpr ⟨field, named⟩, keyFailure?_eq_none_iff.mpr ⟨field, also⟩]

/-- Neither the order nor the spelling of keys changes how keys fail. -/
theorem Respells.exists_failure_iff (respells : Respells room pairs others) (failure : Failure Fault) :
    (∃ entry ∈ others, keyFailure? room entry.1 = some failure) ↔
      ∃ entry ∈ pairs, keyFailure? room entry.1 = some failure := by
  obtain ⟨reordered, perm, respelled⟩ := respells
  have spelling : reordered.map (keyFailure? room ·.1) = others.map (keyFailure? room ·.1) := by
    clear perm
    induction respelled with
    | nil => rfl
    | cons here _ ih => rw [List.map_cons, List.map_cons, here.keyFailure?_eq, ih]
  rw [← List.mem_map, ← spelling, List.mem_map]
  exact exists_congr fun entry => and_congr_left fun _ => perm.mem_iff.symm

theorem named_iff_forall_ne (pairs : List (Value × Value)) :
    (∀ entry ∈ pairs, ∃ field, Denotes room entry.1 field) ↔
      ∀ failure, ¬ ∃ entry ∈ pairs, keyFailure? room entry.1 = some failure := by
  simp only [← keyFailure?_eq_none_iff, Option.eq_none_iff_forall_ne_some]
  exact ⟨fun named failure ⟨entry, member, fails⟩ => named entry member failure fails,
    fun none entry member failure fails => none failure ⟨entry, member, fails⟩⟩

theorem Respells.named_iff (respells : Respells room pairs others) :
    (∀ entry ∈ others, ∃ field, Denotes room entry.1 field) ↔ ∀ entry ∈ pairs, ∃ field, Denotes room entry.1 field := by
  simp only [named_iff_forall_ne, respells.exists_failure_iff]

variable (formula) in
/-- A map with a key that denotes no field is refused for the first such key. -/
theorem read_of_unnamed (unnamed : ¬ ∀ entry ∈ pairs, ∃ field, Denotes room entry.1 field) :
    ∃ failure, read room formula (.map pairs) = .error failure ∧
      ∃ entry ∈ pairs, keyFailure? room entry.1 = some failure := by
  cases found : pairs.findSome? fun entry => keyFailure? room entry.1 with
  | none =>
      rw [List.findSome?_eq_none_iff] at found
      exact absurd (fun entry member => keyFailure?_eq_none_iff.mp (found entry member)) unnamed
  | some failure =>
      refine ⟨failure, ?_, List.exists_of_findSome?_eq_some found⟩
      rw [read, readFields_eq, found]
      rfl

theorem read_of_first {entry : Value × Value} {failure : Failure Fault} (fails : keyFailure? room entry.1 = some failure)
    (rest : List (Value × Value)) : read room formula (.map (entry :: rest)) = .error failure := by
  rw [read, readFields_eq, List.findSome?_cons, fails]
  rfl

theorem respells_of_perm (perm : pairs.Perm others) : Respells room pairs others :=
  ⟨others, perm, List.forall₂_same.mpr fun _ _ => ⟨rfl, Or.inl rfl⟩⟩

/-! ### The outcome -/

variable (formula) in
/-- A map that names every field once is read from what it gives. -/
theorem read_of_named (named : ∀ entry ∈ pairs, ∃ field, Denotes room entry.1 field) :
    ∃ given, fieldsOf? [] pairs = .ok given ∧ read room formula (.map pairs) = readGiven room formula given := by
  obtain ⟨given, read⟩ := (exists_fieldsOf?_iff []).mpr fun entry member =>
    (named entry member).imp fun _ denotes => denotes.2
  refine ⟨given, read, ?_⟩
  rw [Settings.read, readFields_eq_ok_iff.mpr ⟨named, read⟩]
  rfl

/-- Neither the order nor the spelling of keys changes what is read, as long as every key denotes a field. -/
theorem Respells.read_eq (respells : Respells room pairs others) (once : NamesOnce room pairs)
    (named : ∀ entry ∈ pairs, ∃ field, Denotes room entry.1 field) :
    read room formula (.map others) = read room formula (.map pairs) := by
  obtain ⟨given, held, made⟩ := read_of_named formula named
  obtain ⟨other, found, also⟩ := read_of_named formula (respells.named_iff.mpr named)
  have given_eq : ∀ field, lastGiven? others field = lastGiven? pairs field := by
    obtain ⟨reordered, perm, respelled⟩ := respells
    intro field
    rw [lastGiven?_eq_find?, ← map_reading_of_respelled respelled, ← lastGiven?_eq_find?]
    ext value
    rw [lastGiven?_eq_some_iff once named,
      lastGiven?_eq_some_iff (once.perm perm) fun entry member => named entry (perm.mem_iff.mpr member)]
    exact exists_congr fun key => and_congr_left fun _ => perm.mem_iff.symm
  rw [made, also]
  exact readGiven_congr fun field => by rw [get?_of_fieldsOf? found, get?_of_fieldsOf? held, given_eq]

/-- The outcome does not hang on the order of keys if and only if those that denote no field fail alike. -/
theorem outcome_eq_iff (once : NamesOnce room pairs) :
    (∀ others, Respells room pairs others → (read room formula (.map others)).mapError (kindOf room) =
      (read room formula (.map pairs)).mapError (kindOf room)) ↔ KeysFailAlike room pairs := by
  constructor
  · intro alike first among second member failure other fails also
    have outcome : ∀ entry ∈ pairs, ∀ failure, keyFailure? room entry.1 = some failure →
        (read room formula (.map pairs)).mapError (kindOf room) = .error (kindOf room failure) := by
      intro entry member failure fails
      obtain ⟨before, behind, rfl⟩ := List.append_of_mem member
      rw [← alike _ (respells_of_perm List.perm_middle), read_of_first fails]
      rfl
    exact Except.error.inj ((outcome first among failure fails).symm.trans (outcome second member other also))
  · intro alike others respells
    by_cases named : ∀ entry ∈ pairs, ∃ field, Denotes room entry.1 field
    · rw [respells.read_eq once named]
    · obtain ⟨failure, refused, entry, member, fails⟩ := read_of_unnamed formula named
      obtain ⟨other, alsoRefused, found⟩ :=
        read_of_unnamed formula (mt respells.named_iff.mp named)
      obtain ⟨first, among, failed⟩ := (respells.exists_failure_iff other).mp found
      rw [refused, alsoRefused]
      exact congrArg Except.error (alike first among entry member other failure failed fails)

theorem exists_readPrice_iff {given : Assoc Field Value} :
    (∃ price, readPrice room formula given = .ok price) ↔
      ∀ value, given.get? .perUnitCost = some value →
        value = .null ∨ ∃ price, Price.read room formula .ok value = .ok price := by
  rw [readPrice]
  split
  · next absent => simp [absent, pure, Except.pure]
  · next nothing => simp [nothing, pure, Except.pure]
  · next value proper found =>
      simp only [found, Option.some.injEq, forall_eq']
      rw [or_iff_right proper]
      cases Price.read room formula .ok value with
      | ok price => simp [pure, Except.pure]
      | error failure => cases failure <;> simp [throw, throwThe, MonadExceptOf.throw]

theorem exists_readGiven_iff {given : Assoc Field Value} :
    (∃ settings, readGiven room formula given = .ok settings) ↔
      (∀ field ∈ Field.limits, checkLimit given field = .ok ()) ∧
      (∀ field ∈ Field.flags, checkFlag given field = .ok ()) ∧
      (∃ price, readPrice room formula given = .ok price) ∧
      limitOr given .warnThreshold 50 ≤ limitOr given .dangerThreshold 100 := by
  have ordered : ∀ price, (∃ settings, checkThresholds (ofFields given price) = .ok settings) ↔
      limitOr given .warnThreshold 50 ≤ limitOr given .dangerThreshold 100 := by
    intro price
    rw [checkThresholds]
    split
    · next reversed =>
        simp only [reduceCtorEq, exists_false, false_iff]
        exact Int.not_le.mpr reversed
    · next order => exact ⟨fun _ => Int.not_lt.mp order, fun _ => ⟨_, rfl⟩⟩
  simp only [readGiven_eq_ok_iff]
  constructor
  · rintro ⟨settings, limits, flags, price, priced, accepted⟩
    exact ⟨limits, flags, ⟨price, priced⟩, (ordered price).mp ⟨settings, accepted⟩⟩
  · rintro ⟨limits, flags, ⟨price, priced⟩, order⟩
    obtain ⟨settings, accepted⟩ := (ordered price).mpr order
    exact ⟨settings, limits, flags, price, priced, accepted⟩

theorem hasThreshold_iff {given : Assoc Field Value} {field : Field}
    (held : ∀ value, given.get? field = some value ↔ Gives room pairs field value)
    (checked : checkLimit given field = .ok ()) {standard : Int} (usual : value {} field = .int standard) {n : Int} :
    HasThreshold room pairs field n ↔ limitOr given field standard = n := by
  have counts := limitOr_eq checked standard
  rw [← Value.int.injEq, counts]
  simp only [HasThreshold, ← held, usual]
  cases given.get? field <;> simp

/-- Once the limits are checked, the thresholds that count are compared as integers. -/
theorem thresholds_iff {given : Assoc Field Value}
    (held : ∀ field value, given.get? field = some value ↔ Gives room pairs field value)
    (checked : ∀ field ∈ Field.limits, checkLimit given field = .ok ()) :
    (∀ warn danger, HasThreshold room pairs .warnThreshold warn → HasThreshold room pairs .dangerThreshold danger →
      warn ≤ danger) ↔
      limitOr given .warnThreshold 50 ≤ limitOr given .dangerThreshold 100 := by
  have warning : ∀ n, HasThreshold room pairs .warnThreshold n ↔ limitOr given .warnThreshold 50 = n := fun _ =>
    hasThreshold_iff (held _) (checked _ (by decide)) rfl
  have danger : ∀ n, HasThreshold room pairs .dangerThreshold n ↔ limitOr given .dangerThreshold 100 = n := fun _ =>
    hasThreshold_iff (held _) (checked _ (by decide)) rfl
  simp only [warning, danger]
  constructor
  · intro ordered
    exact ordered _ _ rfl rfl
  · rintro ordered _ _ rfl rfl
    exact ordered

theorem exists_read_iff (once : NamesOnce room pairs) :
    (∃ settings, read room formula (.map pairs) = .ok settings) ↔ IsAcceptable room formula pairs := by
  by_cases named : ∀ entry ∈ pairs, ∃ field, Denotes room entry.1 field
  · obtain ⟨given, found, made⟩ := read_of_named formula named
    have held : ∀ field value, given.get? field = some value ↔ Gives room pairs field value := by
      intro field value
      rw [get?_of_fieldsOf? found, Assoc.get?_nil, Option.or_none, lastGiven?_eq_some_iff once named]
    have limit : ∀ field, checkLimit given field = .ok () ↔
        ∀ value, Gives room pairs field value → ∃ n : Int, value = .int n ∧ 1 ≤ n := by
      simp only [checkLimit_eq_ok_iff, held, implies_true]
    have flag : ∀ field, checkFlag given field = .ok () ↔
        ∀ value, Gives room pairs field value → ∃ b, value = .bool b := by
      simp only [checkFlag_eq_ok_iff, held, implies_true]
    rw [made, exists_readGiven_iff, exists_readPrice_iff]
    simp only [held]
    constructor
    · rintro ⟨limits, flags, price, ordered⟩
      exact {
        named := named
        limits := fun field member => (limit field).mp (limits field member)
        flags := fun field member => (flag field).mp (flags field member)
        price := price
        thresholds := (thresholds_iff held limits).mpr ordered }
    · intro acceptable
      have limits : ∀ field ∈ Field.limits, checkLimit given field = .ok () := fun field member =>
        (limit field).mpr (acceptable.limits field member)
      exact ⟨limits, fun field member => (flag field).mpr (acceptable.flags field member), acceptable.price,
        (thresholds_iff held limits).mp acceptable.thresholds⟩
  · obtain ⟨failure, refused, _⟩ := read_of_unnamed formula named
    constructor
    · rintro ⟨settings, accepted⟩
      rw [refused] at accepted
      cases accepted
    · intro acceptable
      exact absurd acceptable.named named

/-- A map that names no field twice is read in every order of its entries and under every spelling of its keys with an
outcome of the same kind, the same settings or a failure of the same kind, if and only if the keys that denote no field
all fail in the same way; what is read is the very same as long as every key denotes a field. It is accepted if and only
if every key denotes a field, every given limit is a positive integer, every given flag is a truth value, a given price
is nothing or can be read, and the thresholds, as they are given or by themselves, are in order. -/
theorem reading_ignores_order_where_keys_fail_alike (room : Nat) (formula : Formula.Evaluator)
    {pairs : List (Value × Value)} (once : NamesOnce room pairs) :
    ((∀ others, Respells room pairs others → (read room formula (.map others)).mapError (kindOf room) =
      (read room formula (.map pairs)).mapError (kindOf room)) ↔ KeysFailAlike room pairs) ∧
    ((∀ entry ∈ pairs, ∃ field, Denotes room entry.1 field) → ∀ others, Respells room pairs others →
      read room formula (.map others) = read room formula (.map pairs)) ∧
    ((∃ settings, read room formula (.map pairs) = .ok settings) ↔ IsAcceptable room formula pairs) :=
  ⟨outcome_eq_iff once, fun named _ respells => respells.read_eq once named, exists_read_iff once⟩

theorem denotes_text {room : Nat} {key : Text} {field : Field} :
    Denotes room (.text key) field ↔ Field.ofKey? key = some field := by
  rw [Denotes, Value.isWritable_text, Names, Value.plain, and_iff_right rfl]

theorem Denotes.apart {room : Nat} {key other : Value} {first second : Field} (denotes : Denotes room key first)
    (also : Denotes room other second) (differ : first ≠ second) (field : Field) (here : Denotes room key field) :
    ¬ Denotes room other field :=
  fun there => denotes.2.apart also.2 differ field here.2 there.2

/-- Three fields in another order, each under another spelling. -/
theorem reading_of_three_respelled :
    let pairs : List (Value × Value) :=
      [(.text "maxOptions".toList, .int 3), (.text "warn_threshold".toList, .int 60),
        (.text "perUnitCost".toList, .int 2)]
    let others : List (Value × Value) :=
      [(.text "per_unit_cost".toList, .int 2), (.text "maxBracketOptions".toList, .int 3),
        (.text "warnThreshold".toList, .int 60)]
    NamesOnce 900 pairs ∧ Respells 900 pairs others ∧
      read 900 Formula.evaluate (.map others) = read 900 Formula.evaluate (.map pairs) ∧
      IsAcceptable 900 Formula.evaluate pairs := by
  intro pairs others
  have options : Denotes 900 (.text "maxOptions".toList) .maxBracketOptions := denotes_text.mpr (by decide)
  have warning : Denotes 900 (.text "warn_threshold".toList) .warnThreshold := denotes_text.mpr (by decide)
  have price : Denotes 900 (.text "perUnitCost".toList) .perUnitCost := denotes_text.mpr (by decide)
  have once : NamesOnce 900 pairs := by
    refine .cons ?_ (.cons ?_ (List.pairwise_singleton _ _))
    · exact List.forall_mem_cons.mpr
        ⟨options.apart warning nofun, List.forall_mem_singleton.mpr (options.apart price nofun)⟩
    · exact List.forall_mem_singleton.mpr (warning.apart price nofun)
  have respells : Respells 900 pairs others := by
    refine ⟨[(.text "perUnitCost".toList, .int 2), (.text "maxOptions".toList, .int 3),
      (.text "warn_threshold".toList, .int 60)], ?_, ?_⟩
    · exact List.perm_append_singleton _ [_, _]
    · exact .cons ⟨rfl, Or.inr ⟨_, price, denotes_text.mpr (by decide)⟩⟩
        (.cons ⟨rfl, Or.inr ⟨_, options, denotes_text.mpr (by decide)⟩⟩
          (.cons ⟨rfl, Or.inr ⟨_, warning, denotes_text.mpr (by decide)⟩⟩ .nil))
  have named : ∀ entry ∈ pairs, ∃ field, Denotes 900 entry.1 field := by
    simp only [pairs, List.forall_mem_cons]
    exact ⟨⟨_, options⟩, ⟨_, warning⟩, ⟨_, price⟩, nofun⟩
  obtain ⟨_, same, accepted⟩ := reading_ignores_order_where_keys_fail_alike 900 Formula.evaluate once
  exact ⟨once, respells, same named others respells, accepted.mp ⟨_, rfl⟩⟩

/-- An integer of 5001 digits as a key and a key that names no field: the one that stands first is what the map is
refused for. -/
theorem order_of_long_key_seen :
    let pairs : List (Value × Value) := [(.int (10 ^ 5000), .int 1), (.text "bad".toList, .int 2)]
    NamesOnce 900 pairs ∧ Respells 900 pairs pairs.reverse ∧
      read 900 Formula.evaluate (.map pairs) = .error (.unwritable (.int (10 ^ 5000))) ∧
      read 900 Formula.evaluate (.map pairs.reverse) = .error (.fault (.unknownKey (.text "bad".toList))) ∧
      (read 900 Formula.evaluate (.map pairs.reverse)).mapError (kindOf 900) ≠
        (read 900 Formula.evaluate (.map pairs)).mapError (kindOf 900) := by
  intro pairs
  have long : (Value.int (10 ^ 5000)).isWritable 900 = false := by
    rw [Value.isWritable_int, Bool.eq_false_iff, ne_eq, Text.hasNumeral_ten_pow_iff]
    decide
  have unwritable : keyFailure? 900 (.int (10 ^ 5000)) = some (.unwritable (.int (10 ^ 5000))) := by
    rw [keyFailure?, long, if_neg Bool.false_ne_true]
  have unknown : keyFailure? 900 (.text "bad".toList) = some (.fault (.unknownKey (.text "bad".toList))) := by
    rw [keyFailure?, Value.isWritable_text, if_pos rfl]
    rfl
  have first : read 900 Formula.evaluate (.map pairs) = .error (.unwritable (.int (10 ^ 5000))) :=
    read_of_first unwritable _
  have second : read 900 Formula.evaluate (.map pairs.reverse) =
      .error (.fault (.unknownKey (.text "bad".toList))) := read_of_first unknown _
  have once : NamesOnce 900 pairs := by
    refine .cons (List.forall_mem_singleton.mpr fun field denotes => ?_) (List.pairwise_singleton _ _)
    have written := denotes.1
    rw [long] at written
    cases written
  refine ⟨once, respells_of_perm (List.reverse_perm pairs).symm, first, second, ?_⟩
  rw [first, second]
  intro same
  have kinds : FailureKind.complaint = kindOf 900 (.unwritable (.int (10 ^ 5000))) := Except.error.inj same
  rw [kindOf] at kinds
  split at kinds <;> cases kinds

end PromptTemplate.Settings
