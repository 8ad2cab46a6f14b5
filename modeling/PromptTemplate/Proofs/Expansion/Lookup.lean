import PromptTemplate.Proofs.Expansion.Cases
import PromptTemplate.Proofs.Reference.Names

set_option autoImplicit false

namespace PromptTemplate

/-- Whether two catalogs have the same entries for each of the names. -/
def Catalog.AgreeOn (names : List Text) (catalog other : Catalog) : Prop :=
  ∀ name ∈ names, catalog.entries name = other.entries name

theorem Catalog.AgreeOn.mono {names others : List Text} {catalog other : Catalog} (subset : others ⊆ names)
    (agree : AgreeOn names catalog other) : AgreeOn others catalog other :=
  fun name member => agree name (subset member)

/-- The names that a unit looks up. -/
def UnitKind.names : UnitKind → List Text
  | .plain _ | .bracketed _ _ => []
  | .wildcarded _ names => names

section

variable (settings : Settings) {catalog other : Catalog}

theorem Resolution.ofNames_congr (fallback : Bool) {names : List Text}
    (agree : Catalog.AgreeOn names catalog other) :
    ofNames fallback catalog names = ofNames fallback other names := by
  apply List.foldl_ext
  intro resolution name member
  simp only [enter, agree name member]

theorem UnitKind.expand_congr {kind : UnitKind} (agree : Catalog.AgreeOn kind.names catalog other) :
    kind.expand settings catalog = kind.expand settings other := by
  cases kind with
  | plain text => rfl
  | bracketed text group => rfl
  | wildcarded text names =>
      have resolved : Resolution.ofNames false catalog names = Resolution.ofNames false other names :=
        Resolution.ofNames_congr false agree
      simp only [expand, resolved]

theorem Chain.expand_congr (text : Text) {kinds : List UnitKind}
    (agree : ∀ kind ∈ kinds, Catalog.AgreeOn kind.names catalog other) :
    expand settings catalog text kinds = expand settings other text kinds := by
  have steps : expandSteps settings catalog 1 kinds = expandSteps settings other 1 kinds := by
    rw [expandSteps_eq_map, expandSteps_eq_map]
    apply List.map_congr_left
    intro entry member
    rw [UnitKind.expand_congr settings (agree entry.1 (List.fst_mem_of_mem_zipIdx member))]
  rw [expand, expand, steps]

theorem UnitKind.names_subset {text : Text} {unit : UnitKind} (read : ofText? text = .ok unit) :
    unit.names ⊆ Reference.names text := by
  cases unit with
  | plain text => exact List.nil_subset _
  | bracketed text group => exact List.nil_subset _
  | wildcarded text names =>
      obtain ⟨_, _, rfl⟩ := ofText?_eq_wildcarded_iff.mp read
      exact List.Subset.refl _

/-- An expansion depends on the entries of the names that the prompt refers to, and on no others. -/
theorem expand_congr {prompt : Text} (agree : Catalog.AgreeOn (Reference.names prompt) catalog other) :
    expand settings catalog prompt = expand settings other prompt := by
  rw [expand, expand]
  cases reading : Kind.ofText? settings.maxPipelineSteps prompt with
  | error issue => rfl
  | ok kind =>
      rcases Kind.cases_of_ofText? reading with ⟨unit, _, read, rfl⟩ | ⟨kinds, _, _, read, rfl⟩
      · have same := UnitKind.expand_congr settings (agree.mono (UnitKind.names_subset read))
        simp only [Kind.expand, same]
      · -- A step looks up names of its own text, and these are names of the prompt.
        apply Chain.expand_congr
        intro kind member
        obtain ⟨step, among, stepRead⟩ := List.mem_map.mp (read ▸ List.mem_map_of_mem member)
        apply agree.mono
        exact List.Subset.trans (UnitKind.names_subset stepRead)
          (Reference.names_subset_of_mem_splitSteps among)

end

end PromptTemplate
