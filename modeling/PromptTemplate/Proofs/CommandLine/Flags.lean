import PromptTemplate.CommandLine.Arguments
import PromptTemplate.Proofs.Settings.Checked

set_option autoImplicit false

namespace PromptTemplate.CommandLine

theorem Word.isOption_of_cluster? {word : Word} {cluster : Cluster} (options : word.cluster? = some cluster) :
    (∃ choice attached, word = .long choice attached) ∨ ∃ choice attached, word = .short choice attached := by
  cases word with
  | long choice attached => exact Or.inl ⟨choice, attached, rfl⟩
  | short choice attached => exact Or.inr ⟨choice, attached, rfl⟩
  | _ => cases options

namespace Arguments

namespace Draft

/-- A reading of words from left to right. -/
inductive Reads : Draft → Bool → List Word → Draft → Prop
  | done {draft : Draft} {besidePrompt : Bool} : Reads draft besidePrompt [] draft
  | operand {draft result : Draft} {besidePrompt : Bool} {text : Text} {rest : List Word}
      (later : Reads (draft.withOperand text) (!draft.hasPrompt) rest result) :
      Reads draft besidePrompt (.operand text :: rest) result
  | terminator {draft : Draft} {besidePrompt : Bool} {rest : List Word} :
      Reads draft besidePrompt (.terminator :: rest) (draft.withTail besidePrompt rest)
  | unknown {draft result : Draft} {besidePrompt : Bool} {rest : List Word}
      (later : Reads { draft with hasSurplus := true } false rest result) :
      Reads draft besidePrompt (.unknown :: rest) result
  | attached {draft noted result : Draft} {besidePrompt : Bool} {word : Word} {cluster : Cluster}
      {choice : Choice} {value : Text} {rest : List Word} (options : word.cluster? = some cluster)
      (valued : cluster.valued = some (choice, some value)) (flags : draft.withFlags cluster.flags = .ok noted)
      (later : Reads (noted.withValue choice value) false rest result) :
      Reads draft besidePrompt (word :: rest) result
  | following {draft noted result : Draft} {besidePrompt : Bool} {word : Word} {cluster : Cluster}
      {choice : Choice} {value : Text} {rest : List Word} (options : word.cluster? = some cluster)
      (valued : cluster.valued = some (choice, none)) (flags : draft.withFlags cluster.flags = .ok noted)
      (later : Reads (noted.withValue choice value) false rest result) :
      Reads draft besidePrompt (word :: .operand value :: rest) result
  | flags {draft noted result : Draft} {besidePrompt : Bool} {word : Word} {cluster : Cluster}
      {rest : List Word} (options : word.cluster? = some cluster) (valued : cluster.valued = none)
      (flags : draft.withFlags cluster.flags = .ok noted)
      (later : Reads { noted with hasSurplus := noted.hasSurplus || cluster.hasSurplus } false rest result) :
      Reads draft besidePrompt (word :: rest) result

variable {draft result : Draft} {besidePrompt : Bool} {words : List Word}

theorem Reads.read (reads : Reads draft besidePrompt words result) :
    draft.read besidePrompt words = .ok result := by
  induction reads with
  | done => rfl
  | operand later ih => exact ih
  | terminator => rfl
  | unknown later ih => exact ih
  | attached options valued flags later ih =>
      rcases Word.isOption_of_cluster? options with ⟨choice, attached, rfl⟩ | ⟨choice, attached, rfl⟩ <;>
        simp only [Draft.read, options, valued, flags] <;> exact ih
  | following options valued flags later ih =>
      rcases Word.isOption_of_cluster? options with ⟨choice, attached, rfl⟩ | ⟨choice, attached, rfl⟩ <;>
        simp only [Draft.read, options, valued, flags] <;> exact ih
  | flags options valued flags later ih =>
      rcases Word.isOption_of_cluster? options with ⟨choice, attached, rfl⟩ | ⟨choice, attached, rfl⟩ <;>
        simp only [Draft.read, options, valued, flags] <;> exact ih

def withExecution (draft : Draft) (execution : Bool) : Draft :=
  { draft with execution }

theorem withOperand_withExecution (draft : Draft) (execution : Bool) (text : Text) :
    (draft.withExecution execution).withOperand text = (draft.withOperand text).withExecution execution := by
  cases prompted : draft.hasPrompt <;> simp [withOperand, withExecution, prompted]

theorem withValue_withExecution (draft : Draft) (execution : Bool) (choice : Choice) (value : Text) :
    (draft.withExecution execution).withValue choice value =
      (draft.withValue choice value).withExecution execution := by
  cases choice <;> rfl

def withWord (draft : Draft) : Word → Draft
  | .operand text => draft.withOperand text
  | _ => draft

theorem withTail_eq (draft : Draft) (besidePrompt : Bool) (words : List Word) :
    draft.withTail besidePrompt words =
      if draft.hasPrompt && !besidePrompt then { words.foldl withWord draft with hasSurplus := true }
      else words.foldl withWord draft :=
  rfl

theorem withWord_withExecution (draft : Draft) (execution : Bool) (word : Word) :
    (draft.withExecution execution).withWord word = (draft.withWord word).withExecution execution := by
  cases word with
  | operand text => exact withOperand_withExecution draft execution text
  | _ => rfl

theorem withTail_withExecution (draft : Draft) (execution besidePrompt : Bool) (words : List Word) :
    (draft.withExecution execution).withTail besidePrompt words =
      (draft.withTail besidePrompt words).withExecution execution := by
  have noted : words.foldl withWord (draft.withExecution execution) =
      (words.foldl withWord draft).withExecution execution :=
    List.foldl_hom (fun draft => draft.withExecution execution)
      fun draft word => withWord_withExecution draft execution word
  have prompted : (draft.withExecution execution).hasPrompt = draft.hasPrompt := rfl
  rw [withTail_eq, withTail_eq, noted, prompted]
  split <;> rfl

theorem withFlag_withExecution {flag : Choice} (noted : draft.withFlag flag = .ok result) (execution : Bool) :
    ∃ kept, (draft.withExecution execution).withFlag flag = .ok (result.withExecution kept) := by
  cases flag with
  | help => cases noted
  | execution =>
      cases noted
      exact ⟨true, rfl⟩
  | _ =>
      cases noted
      exact ⟨execution, rfl⟩

theorem withFlags_withExecution {flags : List Choice} (noted : draft.withFlags flags = .ok result)
    (execution : Bool) :
    ∃ kept, (draft.withExecution execution).withFlags flags = .ok (result.withExecution kept) := by
  induction flags generalizing draft execution with
  | nil =>
      cases noted
      exact ⟨execution, rfl⟩
  | cons flag flags ih =>
      rw [withFlags, List.foldlM_cons, Settings.bind_eq_ok] at noted
      obtain ⟨first, one, others⟩ := noted
      obtain ⟨kept, again⟩ := withFlag_withExecution one execution
      obtain ⟨last, rest⟩ := ih others kept
      refine ⟨last, ?_⟩
      rw [withFlags, List.foldlM_cons, again]
      exact rest

/-- The flag for the prompts to run changes nothing else in a reading. -/
theorem Reads.withExecution (reads : Reads draft besidePrompt words result) (execution : Bool) :
    ∃ kept, Reads (draft.withExecution execution) besidePrompt words (result.withExecution kept) := by
  induction reads generalizing execution with
  | done => exact ⟨execution, .done⟩
  | operand later ih =>
      obtain ⟨kept, again⟩ := ih execution
      rw [← withOperand_withExecution] at again
      exact ⟨kept, .operand again⟩
  | @terminator draft besidePrompt rest =>
      refine ⟨execution, ?_⟩
      rw [← withTail_withExecution]
      exact .terminator
  | unknown later ih =>
      obtain ⟨kept, again⟩ := ih execution
      exact ⟨kept, .unknown again⟩
  | attached options valued flags later ih =>
      obtain ⟨noted, flags⟩ := withFlags_withExecution flags execution
      obtain ⟨kept, again⟩ := ih noted
      rw [← withValue_withExecution] at again
      exact ⟨kept, .attached options valued flags again⟩
  | following options valued flags later ih =>
      obtain ⟨noted, flags⟩ := withFlags_withExecution flags execution
      obtain ⟨kept, again⟩ := ih noted
      rw [← withValue_withExecution] at again
      exact ⟨kept, .following options valued flags again⟩
  | flags options valued flags later ih =>
      obtain ⟨noted, flags⟩ := withFlags_withExecution flags execution
      obtain ⟨kept, again⟩ := ih noted
      exact ⟨kept, .flags options valued flags again⟩

/-- Words that are of use where the prompt was not just in front of them are of use everywhere. -/
theorem Reads.beside (reads : Reads draft false words result) (used : result.hasSurplus = false)
    (besidePrompt : Bool) : Reads draft besidePrompt words result := by
  cases reads with
  | done => exact .done
  | operand later => exact .operand later
  | @terminator _ _ rest =>
      have unprompted : draft.hasPrompt = false := by
        cases prompted : draft.hasPrompt with
        | false => rfl
        | true => simp [withTail, prompted] at used
      have same : draft.withTail false rest = draft.withTail besidePrompt rest := by
        simp [withTail, unprompted]
      rw [same]
      exact .terminator
  | unknown later => exact .unknown later
  | attached options valued flags later => exact .attached options valued flags later
  | following options valued flags later => exact .following options valued flags later
  | flags options valued flags later => exact .flags options valued flags later

/-- The flag for the prompts to run, taken out of words in front of which nothing ends the options. -/
theorem Reads.removed {left right : List Word} (used : result.hasSurplus = false)
    (unended : .terminator ∉ left)
    (reads : Reads draft besidePrompt (left ++ .long .execution none :: right) result) :
    ∃ kept, Reads draft besidePrompt (left ++ right) (result.withExecution kept) := by
  generalize whole : left ++ .long .execution none :: right = words at reads
  have alone : ∀ {cluster : Cluster}, (Word.long .execution none).cluster? = some cluster →
      cluster = { flags := [.execution] } := by
    intro cluster options
    exact (Option.some.inj options).symm
  induction reads generalizing left with
  | done => simp at whole
  | operand later ih =>
      cases left with
      | nil => cases whole
      | cons word left =>
          obtain ⟨rfl, rfl⟩ := List.cons.inj whole
          obtain ⟨kept, again⟩ := ih used (List.not_mem_of_not_mem_cons unended) rfl
          exact ⟨kept, .operand again⟩
  | terminator =>
      cases left with
      | nil => cases whole
      | cons word left =>
          obtain ⟨rfl, rfl⟩ := List.cons.inj whole
          exact absurd List.mem_cons_self unended
  | unknown later ih =>
      cases left with
      | nil => cases whole
      | cons word left =>
          obtain ⟨rfl, rfl⟩ := List.cons.inj whole
          obtain ⟨kept, again⟩ := ih used (List.not_mem_of_not_mem_cons unended) rfl
          exact ⟨kept, .unknown again⟩
  | attached options valued flags later ih =>
      cases left with
      | nil =>
          obtain ⟨rfl, rfl⟩ := List.cons.inj whole
          cases alone options
          cases valued
      | cons word left =>
          obtain ⟨rfl, rfl⟩ := List.cons.inj whole
          obtain ⟨kept, again⟩ := ih used (List.not_mem_of_not_mem_cons unended) rfl
          exact ⟨kept, .attached options valued flags again⟩
  | following options valued flags later ih =>
      -- The value of an option is an operand, so the flag is not in its place.
      match left with
      | [] =>
          obtain ⟨rfl, rfl⟩ := List.cons.inj whole
          cases alone options
          cases valued
      | [word] => cases whole
      | word :: value :: left =>
          simp only [List.cons_append, List.cons.injEq] at whole
          obtain ⟨rfl, rfl, rfl⟩ := whole
          have unended := List.not_mem_of_not_mem_cons (List.not_mem_of_not_mem_cons unended)
          obtain ⟨kept, again⟩ := ih used unended rfl
          exact ⟨kept, .following options valued flags again⟩
  | @flags draft noted result besidePrompt word cluster rest options valued flags later ih =>
      cases left with
      | nil =>
          obtain ⟨rfl, rfl⟩ := List.cons.inj whole
          cases alone options
          cases flags
          -- The rest was read with the flag noted; with the flag as it was before it is read alike.
          simp only [Bool.or_false] at later
          obtain ⟨kept, again⟩ := later.withExecution draft.execution
          exact ⟨kept, Reads.beside again used besidePrompt⟩
      | cons word left =>
          obtain ⟨rfl, rfl⟩ := List.cons.inj whole
          obtain ⟨kept, again⟩ := ih used (List.not_mem_of_not_mem_cons unended) rfl
          exact ⟨kept, .flags options valued flags again⟩

end Draft

def withExecution (arguments : Arguments) (execution : Bool) : Arguments :=
  { arguments with execution }

end Arguments

end PromptTemplate.CommandLine
