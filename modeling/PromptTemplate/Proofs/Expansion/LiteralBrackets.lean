import PromptTemplate.Proofs.Bracket.Grammar
import PromptTemplate.Proofs.Expansion.Cases
import PromptTemplate.Proofs.Expansion.Wildcards
import PromptTemplate.Proofs.Reference.Replacement

set_option autoImplicit false

namespace PromptTemplate

/-! ### Replaced characters -/

section

variable {replace : Char → Char} (spares : Text.SparesWords replace) {text : Text} {entries : Text → List Text}
  (kept : ∀ name ∈ Reference.names text, ∀ entry ∈ entries name, entry.map replace = entry)

include spares kept

/-- Entries in which nothing is replaced make the units of a text in any case, before or after the replacement. -/
theorem Selection.units_map (referring : Reference.names text ≠ []) :
    units (text.map replace) (Reference.names text) entries =
      (units text (Reference.names text) entries).map (List.map replace) := by
  rw [units_of_names _ entries referring, units_of_names text entries referring, List.map_map]
  apply List.map_congr_left
  intro chosen among
  have selects := selects_pick among
  change unit (text.map replace) _ chosen = (unit text _ chosen).map replace
  rw [unit, unit, ← spares.trim_map, Reference.substitute_map spares]
  intro name member value picked
  exact kept name member value (selects.mem_entries name value picked)

end

/-- A wildcarded unit with some of its characters replaced is refused for the same reasons, or makes as many units,
in which the same characters are replaced. -/
theorem UnitKind.expand_wildcarded_map {replace : Char → Char} (spares : Text.SparesWords replace)
    (settings : Settings) {catalog : Catalog} {text : Text} (referring : Reference.names text ≠ [])
    (kept : ∀ name ∈ Reference.names text, ∀ entry ∈ catalog.entries name, entry.map replace = entry) :
    let names := Reference.names text
    let whole := (wildcarded text names).expand settings catalog
    (wildcarded (text.map replace) names).expand settings catalog =
      { whole with
        prompt := text.map replace
        units := whole.units.map (List.map replace)
        kind := some (.wildcarded (text.map replace) names) } := by
  intro names whole
  have found : Reference.names (text.map replace) = names := Reference.names_map spares text
  have refers : Reference.names (text.map replace) ≠ [] := found ▸ referring
  have replaced := expand_wildcarded settings catalog refers
  have plain := expand_wildcarded settings catalog referring
  rw [found] at replaced
  simp only [whole]
  rw [replaced, plain]
  cases Selection.refusal? settings catalog.entries names with
  | some issue => rfl
  | none =>
      simp only [names, Selection.units_map spares kept referring]
      simp [Selection.outcome, Outcome.withKind]

/-! ### Characters that are kept -/

/-- Characters that are not blank are not lost when a text is trimmed. -/
theorem Text.filter_trim {keep : Char → Bool} (visible : ∀ c, isBlankChar c = true → keep c = false) (text : Text) :
    (trim text).filter keep = text.filter keep := by
  have front : ∀ written : Text, (trimStart written).filter keep = written.filter keep := by
    intro written
    have blank : (written.takeWhile isBlankChar).filter keep = [] := by
      rw [List.filter_eq_nil_iff]
      intro c member
      simp [visible c (List.mem_takeWhile_imp member)]
    conv => rhs; rw [← List.takeWhile_append_dropWhile (p := isBlankChar) (l := written), List.filter_append, blank]
    rfl
  have back : (trimEnd (trimStart text)).filter keep = (trimStart text).filter keep := by
    have reversed := front (trimStart text).reverse
    rw [List.filter_reverse] at reversed
    rw [trimEnd, List.filter_reverse, ← trimStart, reversed, List.reverse_reverse]
  rw [trim, back, front]

/-- Values without the characters in question leave a text with the ones that it has. -/
theorem Reference.filter_substitute {keep : Char → Bool} (other : ∀ c, Text.isWordChar c = true → keep c = false)
    {text : Text} {picks : Text → Option Text}
    (absent : ∀ name ∈ names text, ∀ value, picks name = some value → value.filter keep = []) :
    (substitute picks text).filter keep = text.filter keep := by
  conv => rhs; rw [← substitute_none text]
  rw [substitute, substitute, List.filter_flatMap, List.filter_flatMap]
  apply List.flatMap_congr
  refine forall_mem_pieces (fun _ => rfl) fun name named => ?_
  have bare : (token name).filter keep = [] := by
    rw [List.filter_eq_nil_iff]
    intro c member
    simp [other c ((isName_of_mem_names named).word_token c member)]
  change ((picks name).getD (token name)).filter keep = (token name).filter keep
  cases picked : picks name with
  | none => rfl
  | some value => exact (absent name named value picked).trans bare.symm

namespace Bracket

/-- The parenthesis in the place of a bracket. -/
def round (c : Char) : Char :=
  if c = '[' then '(' else if c = ']' then ')' else c

/-- A text with parentheses in the place of its brackets. -/
def rounded (text : Text) : Text :=
  text.map round

theorem round_cases (c : Char) :
    (isBracket c = false ∧ round c = c) ∨ (c = '[' ∧ round c = '(') ∨ (c = ']' ∧ round c = ')') := by
  by_cases opening : c = '['
  · exact Or.inr (Or.inl ⟨opening, by simp [round, opening]⟩)
  · by_cases closing : c = ']'
    · exact Or.inr (Or.inr ⟨closing, by simp [round, closing]⟩)
    · exact Or.inl ⟨by simp [isBracket, opening, closing], by simp [round, opening, closing]⟩

/-- No bracket is among characters that neither of the two is among. -/
theorem not_isBracket_of_apart {among : Char → Bool} (opening : among '[' = false) (closing : among ']' = false)
    {c : Char} (member : among c = true) : isBracket c = false := by
  rcases round_cases c with ⟨other, _⟩ | ⟨rfl, _⟩ | ⟨rfl, _⟩
  · exact other
  · exact absurd member (by simp [opening])
  · exact absurd member (by simp [closing])

theorem sparesWords_round : Text.SparesWords round where
  word c word := by
    rcases round_cases c with ⟨_, same⟩ | ⟨rfl, _⟩ | ⟨rfl, _⟩
    · exact same
    · exact absurd word (by decide)
    · exact absurd word (by decide)
  other c other := by
    rcases round_cases c with ⟨_, same⟩ | ⟨_, same⟩ | ⟨_, same⟩
    · rwa [same]
    · rw [same]; decide
    · rw [same]; decide
  blank c := by
    rcases round_cases c with ⟨_, same⟩ | ⟨rfl, same⟩ | ⟨rfl, same⟩
    · rw [same]
    · rw [same]; decide
    · rw [same]; decide

theorem rounded_of_free {text : Text} (free : IsFree text) : rounded text = text := by
  have same : ∀ c ∈ text, round c = c := by
    intro c member
    rcases round_cases c with ⟨_, same⟩ | ⟨rfl, _⟩ | ⟨rfl, _⟩
    · exact same
    · exact absurd member (free.not_mem rfl)
    · exact absurd member (free.not_mem rfl)
  rw [rounded, List.map_congr_left same, List.map_id']

theorem bar_mem_rounded {text : Text} : Chain.bar ∈ rounded text ↔ Chain.bar ∈ text := by
  constructor
  · intro barred
    obtain ⟨c, member, rounds⟩ := List.mem_map.mp barred
    rcases round_cases c with ⟨_, same⟩ | ⟨_, same⟩ | ⟨_, same⟩
    · exact (same.symm.trans rounds) ▸ member
    · exact absurd (same.symm.trans rounds) (by decide)
    · exact absurd (same.symm.trans rounds) (by decide)
  · exact fun barred => List.mem_map.mpr ⟨Chain.bar, barred, rfl⟩

end Bracket

section

variable (settings : Settings) {catalog : Catalog} {text : Text} (unbarred : Chain.bar ∉ text)
  (referring : Reference.names text ≠ [])
  (free : ∀ name ∈ Reference.names text, ∀ entry ∈ catalog.entries name, Bracket.IsFree entry)

include unbarred referring free

/-- With parentheses in the place of its brackets a text is expanded into units with parentheses in their place, and
nothing else changes. -/
theorem expand_rounded :
    let whole := expand settings catalog text
    expand settings catalog (Bracket.rounded text) =
      { whole with
        prompt := Bracket.rounded text
        units := whole.units.map Bracket.rounded
        kind := some (.single (.wildcarded (Bracket.rounded text) (Reference.names text))) } := by
  have found : Reference.names (Bracket.rounded text) = Reference.names text :=
    Reference.names_map Bracket.sparesWords_round text
  have kept : ∀ name ∈ Reference.names text, ∀ entry ∈ catalog.entries name, entry.map Bracket.round = entry :=
    fun name member entry among => Bracket.rounded_of_free (free name member entry among)
  have unit := UnitKind.expand_wildcarded_map Bracket.sparesWords_round settings referring kept
  rw [expand_of_referring settings catalog (fun barred => unbarred (Bracket.bar_mem_rounded.mp barred))
    (found ▸ referring), found, expand_of_referring settings catalog unbarred referring]
  simp only [Bracket.rounded, unit]
  rfl

theorem filter_isBracket_of_mem_units {unit : Text} (member : unit ∈ (expand settings catalog text).units) :
    unit.filter Bracket.isBracket = text.filter Bracket.isBracket := by
  rw [expand_of_referring settings catalog unbarred referring] at member
  obtain ⟨picks, selects, rfl⟩ := UnitKind.exists_selects_of_mem_expand referring member
  rw [Text.filter_trim fun c => Bracket.not_isBracket_of_apart rfl rfl]
  apply Reference.filter_substitute
  · exact fun c => Bracket.not_isBracket_of_apart rfl rfl
  · intro name named value picked
    rw [List.filter_eq_nil_iff]
    intro c inside
    simp [free name named value (selects.mem_entries name value picked) c inside]

end

/-- Brackets beside references are inert. A text without bars that refers to a name is wildcarded, however its brackets
stand. With parentheses in their place it is refused for the same reasons or has as many units, the same warnings and
the same preview, and its units are the units of the text with parentheses in the place of brackets, one by one. So no
bracket of the text is lost or read: each unit has all of them in their order. The entries for the names must have no
brackets of their own; parentheses in them do not matter. -/
theorem brackets_inert_beside_references (settings : Settings) {catalog : Catalog} {text : Text}
    (unbarred : Chain.bar ∉ text) (referring : Reference.names text ≠ [])
    (free : ∀ name ∈ Reference.names text, ∀ entry ∈ catalog.entries name, Bracket.IsFree entry) :
    let whole := expand settings catalog text
    let round := expand settings catalog (Bracket.rounded text)
    whole.kind = some (.single (.wildcarded text (Reference.names text))) ∧
      round.kind = some (.single (.wildcarded (Bracket.rounded text) (Reference.names text))) ∧
      round.isValid = whole.isValid ∧
      round.diagnostics = whole.diagnostics ∧
      round.warnings = whole.warnings ∧
      round.names = whole.names ∧
      round.totalCount = whole.totalCount ∧
      round.previewCount = whole.previewCount ∧
      round.units = whole.units.map Bracket.rounded ∧
      ∀ unit ∈ whole.units, unit.filter Bracket.isBracket = text.filter Bracket.isBracket := by
  intro whole round
  have kind : whole.kind = some (.single (.wildcarded text (Reference.names text))) := by
    simp only [whole, expand_of_referring settings catalog unbarred referring]
    rw [UnitKind.expand_wildcarded settings catalog referring]
    split <;> rfl
  have rounding := expand_rounded settings unbarred referring free
  change round = _ at rounding
  rw [rounding]
  exact ⟨kind, rfl, rfl, rfl, rfl, rfl, rfl, rfl, rfl,
    fun _ member => filter_isBracket_of_mem_units settings unbarred referring free member⟩

/-- Brackets that touch references from both sides, nested, unpaired, empty and the wrong way round. -/
theorem brackets_inert_beside_two_references :
    let catalog : Catalog := [⟨"a".toList, ["x (y)".toList, "z".toList]⟩, ⟨"b_".toList, ["k".toList]⟩]
    let text := " ][_a_][[_b__ []] [ _a_".toList
    (expand {} catalog text).isValid = true ∧
      (expand {} catalog text).units = ["][x (y)][[k []] [ x (y)".toList, "][z][[k []] [ z".toList] ∧
      (expand {} catalog (Bracket.rounded text)).totalCount = 2 ∧
      (expand {} catalog (Bracket.rounded text)).units =
        [")(x (y))((k ()) ( x (y)".toList, ")(z)((k ()) ( z".toList] := by
  intro catalog text
  have found : Reference.names text = ["a".toList, "b_".toList] := by
    simp only [text]
    cbv
  have free : ∀ name ∈ Reference.names text, ∀ entry ∈ catalog.entries name, Bracket.IsFree entry := by
    have every : (["a".toList, "b_".toList].all fun name => (catalog.entries name).all fun entry =>
        entry.all (!Bracket.isBracket ·)) = true := by
      simp only [catalog]
      cbv
    rw [found]
    simpa only [List.all_eq_true, Bool.not_eq_true', Bracket.IsFree] using every
  have made : (expand {} catalog text).isValid = true ∧ (expand {} catalog text).totalCount = 2 ∧
      (expand {} catalog text).units = ["][x (y)][[k []] [ x (y)".toList, "][z][[k []] [ z".toList] := by
    simp only [catalog, text]
    cbv
  obtain ⟨_, _, _, _, _, _, count, _, units, _⟩ :=
    brackets_inert_beside_references {} (by decide : Chain.bar ∉ text) (by simp [found]) free
  refine ⟨made.1, made.2.2, count.trans made.2.1, ?_⟩
  rw [units, made.2.2]
  cbv

end PromptTemplate
