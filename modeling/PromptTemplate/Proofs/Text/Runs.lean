import Mathlib.Data.List.SplitBy
import PromptTemplate.Text.Basic

set_option autoImplicit false

namespace PromptTemplate.Text

/-- The text cut wherever a word character and another character meet. -/
def blocks (text : Text) : List Text :=
  text.splitBy fun a b => isWordChar a == isWordChar b

/-- The maximal runs of word characters, from left to right. -/
def wordRuns (text : Text) : List Text :=
  (blocks text).filter (·.all isWordChar)

/-- A text cut into blocks that cannot be longer: each has word characters only or none at all, and
neighbours differ in this. -/
structure IsCut (text : Text) (blocks : List Text) : Prop where
  whole : blocks.flatten = text
  nonempty : [] ∉ blocks
  uniform : ∀ block ∈ blocks, ∀ a ∈ block, ∀ b ∈ block, isWordChar a = isWordChar b
  maximal : blocks.IsChain fun left right => ∀ a ∈ left, ∀ b ∈ right, isWordChar a ≠ isWordChar b

/-- If neighbours are alike in a block, all of its characters are. -/
theorem kind_eq_of_isChain {kind : Char → Bool} {block : Text}
    (chain : block.IsChain fun a b => (kind a == kind b) = true) :
    ∀ a ∈ block, ∀ b ∈ block, kind a = kind b := by
  induction block with
  | nil => simp
  | cons c rest ih =>
      obtain ⟨next, others⟩ := List.isChain_cons.mp chain
      have like : ∀ b ∈ rest, kind c = kind b := by
        intro b member
        obtain ⟨d, tail, rfl⟩ := List.exists_cons_of_ne_nil (List.ne_nil_of_mem member)
        have neighbour : kind c = kind d := beq_iff_eq.mp (next d rfl)
        exact neighbour.trans (ih others d List.mem_cons_self b member)
      rw [List.forall_mem_cons]
      refine ⟨List.forall_mem_cons.mpr ⟨rfl, like⟩, fun a member => ?_⟩
      exact List.forall_mem_cons.mpr ⟨(like a member).symm, ih others a member⟩

theorem blocks_isCut (text : Text) : IsCut text (blocks text) := by
  have uniform : ∀ block ∈ blocks text, ∀ a ∈ block, ∀ b ∈ block, isWordChar a = isWordChar b :=
    fun block member => kind_eq_of_isChain (List.isChain_of_mem_splitBy member)
  refine ⟨List.flatten_splitBy _ text, List.nil_notMem_splitBy _ text, uniform, ?_⟩
  apply (List.isChain_getLast_head_splitBy _ text).imp_of_mem_imp
  rintro left right first second ⟨occupied, present, differ⟩ a inLeft b inRight
  rw [uniform left first a inLeft _ (List.getLast_mem occupied),
    uniform right second b inRight _ (List.head_mem present)]
  exact beq_eq_false_iff_ne.mp differ

theorem all_isWordChar_of_mem_wordRuns {text run : Text} (member : run ∈ wordRuns text) :
    ∀ c ∈ run, isWordChar c = true :=
  List.all_eq_true.mp (List.mem_filter.mp member).2

theorem not_isWordChar_of_not_mem_wordRuns {text block : Text} (among : block ∈ blocks text)
    (other : block ∉ wordRuns text) : ∀ c ∈ block, isWordChar c = false := by
  intro c member
  by_contra kept
  rw [Bool.not_eq_false] at kept
  apply other
  refine List.mem_filter.mpr ⟨among, List.all_eq_true.mpr fun a within => ?_⟩
  rw [(blocks_isCut text).uniform block among a within c member, kept]

/-- Behind a run of word characters stands a block without any. If such blocks are kept when the others are written
over, what is written behind the run does not begin with a word character. -/
theorem not_isWordChar_behind_run {run : Text} {rest : List Text} {write : Text → Text} (nonempty : [] ∉ run :: rest)
    (word : ∀ c ∈ run, isWordChar c = true)
    (parted : (run :: rest).IsChain fun left right => ∀ a ∈ left, ∀ b ∈ right, isWordChar a ≠ isWordChar b)
    (kept : ∀ part ∈ rest, (∀ c ∈ part, isWordChar c = false) → write part = part) :
    ∀ c ∈ (rest.flatMap write).head?, isWordChar c = false := by
  intro c first
  cases rest with
  | nil => cases first
  | cons second others =>
      rw [List.mem_cons, not_or] at nonempty
      obtain ⟨d, tail, rfl⟩ := List.exists_cons_of_ne_nil (Ne.symm nonempty.1)
      obtain ⟨e, after, rfl⟩ := List.exists_cons_of_ne_nil (Ne.symm (List.ne_of_not_mem_cons nonempty.2))
      have plain : ∀ b ∈ e :: after, isWordChar b = false := by
        intro b member
        have differ := (List.isChain_cons.mp parted).1 _ rfl d List.mem_cons_self b member
        rw [word d List.mem_cons_self] at differ
        exact Bool.eq_false_iff.mpr (Ne.symm differ)
      rw [List.flatMap_cons, kept _ List.mem_cons_self plain, List.cons_append, List.head?_cons,
        Option.mem_some_iff] at first
      exact first ▸ plain e List.mem_cons_self

end PromptTemplate.Text
