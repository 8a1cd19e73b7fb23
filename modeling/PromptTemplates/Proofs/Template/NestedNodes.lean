import PromptTemplates.Template.Decode

/-!
# The nodes of a template at all depths

What a template writes and calls is told by its nodes, with those in the branches of its blocks.
-/

namespace PromptTemplates

mutual

/-- The names that are called in an argument. -/
def Argument.called : Argument → List String
  | .literal _ => []
  | .path _ => []
  | .call helper arguments => helper :: calledIn arguments

/-- The names that are called in arguments. -/
def calledIn : List (Option String × Argument) → List String
  | [] => []
  | (_, a) :: rest => a.called ++ calledIn rest

end

/-- The names that a node may call, besides those in its branches. A reference with one segment and a block
may call functions of their names, and else those for names that are no function. -/
def Node.called : Node → List String
  | .text _ => []
  | .comment => []
  | .reference _ [name] arguments => name :: "helperMissing" :: calledIn arguments
  | .reference _ _ arguments => calledIn arguments
  | .block _ name arguments _ _ => name :: "blockHelperMissing" :: calledIn arguments
  | .include template arguments => template.called ++ calledIn arguments

/-- No value is written as it is by a node, apart from those in its branches. -/
def Node.isEscaped : Node → Bool
  | .reference escaped _ _ => escaped
  | _ => true

mutual

/-- A node and the nodes in its branches, at any depth. -/
def Node.nested : Node → List Node
  | .block inverted name arguments body none =>
    .block inverted name arguments body none :: nestedIn body
  | .block inverted name arguments body (some otherwise) =>
    .block inverted name arguments body (some otherwise) :: (nestedIn body ++ nestedIn otherwise)
  | n => [n]

/-- Some nodes and the nodes in their branches, at any depth. -/
def nestedIn : List Node → List Node
  | [] => []
  | n :: rest => n.nested ++ nestedIn rest

end

variable {n : Node} {nodes rest : List Node}

theorem nested_subset (h : n ∈ nodes) : n.nested ⊆ nestedIn nodes := by
  induction nodes with
  | nil => cases h
  | cons first rest ih =>
    rw [nestedIn]
    rcases List.mem_cons.mp h with rfl | h
    · exact List.subset_append_left _ _
    · exact List.subset_append_of_subset_right _ (ih h)

theorem mem_nested (n : Node) : n ∈ n.nested := by
  unfold Node.nested
  split <;> exact List.mem_cons_self

theorem exists_of_mem_nestedIn {m : Node} (h : m ∈ nestedIn nodes) : ∃ n ∈ nodes, m ∈ n.nested := by
  induction nodes with
  | nil => cases h
  | cons first rest ih =>
    rw [nestedIn] at h
    rcases List.mem_append.mp h with h | h
    · exact ⟨first, List.mem_cons_self, h⟩
    · obtain ⟨n, hn, hm⟩ := ih h
      exact ⟨n, List.mem_cons_of_mem _ hn, hm⟩

/-! ## Decoding -/

mutual

/-- Decoding the names of a node leaves its texts as they are. -/
theorem text_of_decode? {s : String} : (n : Node) → {m : Node} → n.decode? = some m →
    .text s ∈ m.nested → .text s ∈ n.nested
  | .text t, m, h, hs => by
    cases h
    exact hs
  | .comment, m, h, hs => by
    cases h
    exact hs
  | .reference escaped path arguments, m, h, hs => by
    obtain ⟨_, -, h⟩ := Option.bind_eq_some_iff.mp h
    obtain ⟨_, -, h⟩ := Option.bind_eq_some_iff.mp h
    cases h
    simp [Node.nested] at hs
  | .block inverted name arguments body none, m, h, hs => by
    obtain ⟨_, -, h⟩ := Option.bind_eq_some_iff.mp h
    obtain ⟨decoded, hbody, h⟩ := Option.bind_eq_some_iff.mp h
    cases h
    simp only [Node.nested, List.mem_cons, reduceCtorEq, false_or] at hs ⊢
    exact text_of_decodeNodes? body hbody hs
  | .block inverted name arguments body (some otherwise), m, h, hs => by
    obtain ⟨_, -, h⟩ := Option.bind_eq_some_iff.mp h
    obtain ⟨decoded, hbody, h⟩ := Option.bind_eq_some_iff.mp h
    obtain ⟨other, hother, h⟩ := Option.bind_eq_some_iff.mp h
    cases h
    simp only [Node.nested, List.mem_cons, reduceCtorEq, false_or, List.mem_append] at hs ⊢
    exact hs.imp (text_of_decodeNodes? body hbody) (text_of_decodeNodes? otherwise hother)
  | .include template arguments, m, h, hs => by
    obtain ⟨_, -, h⟩ := Option.bind_eq_some_iff.mp h
    obtain ⟨_, -, h⟩ := Option.bind_eq_some_iff.mp h
    cases h
    simp [Node.nested] at hs

theorem text_of_decodeNodes? {s : String} : (nodes : List Node) → {ms : List Node} →
    decodeNodes? nodes = some ms → .text s ∈ nestedIn ms → .text s ∈ nestedIn nodes
  | [], ms, h, hs => by
    cases h
    exact hs
  | n :: rest, ms, h, hs => by
    obtain ⟨m, hn, h⟩ := Option.bind_eq_some_iff.mp h
    obtain ⟨others, hrest, h⟩ := Option.bind_eq_some_iff.mp h
    cases h
    simp only [nestedIn, List.mem_append] at hs ⊢
    exact hs.imp (text_of_decode? n hn) (text_of_decodeNodes? rest hrest)

end

end PromptTemplates
