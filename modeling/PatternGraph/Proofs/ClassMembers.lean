import PatternGraph.Proofs.Elements

/-!
# The members of a class

A class stands for the set of its members: neither their order nor a repetition leaves a trace in
the graph, and a class of one member is that literal. This holds in every text in which the class is
one. A `[` that compiles stands where an element may begin, so the text in front is complete.
-/
namespace PatternGraph
variable {before after u v : List Char} {g : Graph}

/-- The text in front of a `[` in a pattern is complete. -/
theorem complete_of_compile_class {rest : List Char}
    (compiled : compile (before ++ '[' :: rest) = .ok g) : Complete before := by
  obtain ⟨alphabet, accepted, _⟩ := compile_eq_ok_iff_accepts.1 compiled
  rw [Token.kinds_append, Grammar.Position.accepts_append, Option.any_eq_true] at accepted
  obtain ⟨p, reached, accepted⟩ := accepted
  rw [Token.kinds_cons rfl, Grammar.Position.accepts] at accepted
  split at accepted
  · next opened =>
    exact complete_of_reach? (List.forall_mem_append.1 alphabet).1 reached
      (Grammar.Position.isBetween_of_next?_classOpen opened)
  · cases accepted

/-- Two ways to write the same element are interchangeable. -/
theorem compile_of_writes {text other : List Char} {symbols : SymbolSet}
    (complete : Complete before) (written : Writes text symbols) (rewritten : Writes other symbols)
    (compiled : compile (before ++ text ++ after) = .ok g) :
    compile (before ++ other ++ after) = .ok g :=
  (compile_around_element_iff complete rewritten).2
    ((compile_around_element_iff complete written).1 compiled)

/-- Where a class of literals compiles, so does any class with the same members, to the same graph,
and so does the literal in its place if it has one member only. -/
theorem compile_class_of_same_members (nonempty : u ≠ []) (literal : ∀ c ∈ u, Text.isLiteral c)
    (same : ∀ c, c ∈ u ↔ c ∈ v)
    (compiled : compile (before ++ ('[' :: u ++ [']']) ++ after) = .ok g) :
    compile (before ++ ('[' :: v ++ [']']) ++ after) = .ok g ∧
      ∀ c, (∀ d, d ∈ u ↔ d = c) → compile (before ++ [c] ++ after) = .ok g := by
  have complete : Complete before := by
    rw [List.append_assoc, List.cons_append] at compiled
    exact complete_of_compile_class compiled
  have written : Writes ('[' :: u ++ [']']) (.ofList u) := .charClass nonempty literal
  constructor
  · have sets : SymbolSet.ofList v = SymbolSet.ofList u :=
      SymbolSet.eq_of_mem_iff fun c => by
        rw [SymbolSet.mem_ofList, SymbolSet.mem_ofList, same]
    have nonemptyOther : v ≠ [] := by
      rintro rfl
      obtain ⟨c, member⟩ := List.exists_mem_of_ne_nil u nonempty
      exact List.not_mem_nil ((same c).1 member)
    have rewritten : Writes ('[' :: v ++ [']']) (.ofList u) :=
      sets ▸ .charClass nonemptyOther fun c member => literal c ((same c).2 member)
    exact compile_of_writes complete written rewritten compiled
  · intro c only
    have sets : SymbolSet.single c = SymbolSet.ofList u :=
      SymbolSet.eq_of_mem_iff fun d => by
        rw [SymbolSet.mem_single, SymbolSet.mem_ofList, only]
    have rewritten : Writes [c] (.ofList u) := sets ▸ .literal (literal c ((only c).2 rfl))
    exact compile_of_writes complete written rewritten compiled

/-- In front of a quantifier and behind another class, with a member that is not ASCII. -/
theorem compile_class_of_same_members_quantified :
    compile "[x]?[éaé]*b".toList =
        .ok ⟨#[⟨[⟨1, .single 'x'⟩, ⟨2, .single 'b'⟩], false⟩,
          ⟨[⟨1, .ofList ['a', 'é']⟩, ⟨2, .single 'b'⟩], false⟩,
          ⟨[], true⟩]⟩ ∧
      compile "[x]?[aé]*b".toList = compile "[x]?[éaé]*b".toList ∧
      compile "x?[éaé]*b".toList = compile "[x]?[éaé]*b".toList := by
  have compiled : compile ("[x]?".toList ++ ('[' :: ['é', 'a', 'é'] ++ [']']) ++ "*b".toList) =
      .ok ⟨#[⟨[⟨1, .single 'x'⟩, ⟨2, .single 'b'⟩], false⟩,
        ⟨[⟨1, .ofList ['a', 'é']⟩, ⟨2, .single 'b'⟩], false⟩,
        ⟨[], true⟩]⟩ := by decide
  have compiledFirst : compile ([] ++ ('[' :: ['x'] ++ [']']) ++ "?[éaé]*b".toList) = .ok _ :=
    compiled
  have reordered := (compile_class_of_same_members (v := ['a', 'é']) (by decide)
    (List.all_eq_true.1 (by decide)) (by simp [or_comm]) compiled).1
  have unwrapped := (compile_class_of_same_members (v := ['x']) (by decide)
    (List.all_eq_true.1 (by decide)) (fun _ => Iff.rfl) compiledFirst).2 'x' (by simp)
  exact ⟨compiled, reordered.trans compiled.symm, unwrapped.trans compiled.symm⟩

end PatternGraph
