import PatternGraph.Proofs.Boundaries
import PatternGraph.Proofs.WalkResult

/-!
# A leading match is the shortest whole match

A leading walk and a whole walk take the same steps; the leading one asks before each step what the
whole one asks only at the end of the text. So a leading walk over a text gives what the whole
walks over its prefixes, shortest first, give at the first success.
-/
namespace PatternGraph.Graph
open Text (IsBoundary takeBytes)

theorem matchFrom_leading_eq_findSome? (g : Graph) (id : StateId) (offset : Nat)
    (text : List Char) :
    g.matchFrom .leading id offset text =
      text.inits.findSome? (g.matchFrom .whole id offset) := by
  induction text generalizing id offset with
  | nil => simp
  | cons c rest ih =>
    rw [matchFrom_leading_cons, List.inits_cons, List.findSome?_cons, matchFrom_nil,
      List.findSome?_map]
    by_cases accepting : g.accepts id
    · simp [accepting]
    · cases moved : g.target? id c with
      | none =>
        have stuck : rest.inits.findSome? (g.matchFrom .whole id offset ∘ (c :: ·)) = none :=
          List.findSome?_eq_none_iff.2 fun front _ => by simp [matchFrom_whole_cons, moved]
        simp [accepting, stuck]
      | some target =>
        simp [accepting, moved, Function.comp_def, matchFrom_whole_cons, ih]

theorem run_leading_eq_findSome? (g : Graph) (text : List Char) :
    g.run text .leading = text.inits.findSome? (g.run · .whole) :=
  matchFrom_leading_eq_findSome? g start 0 text

theorem stop_of_run_whole {g : Graph} {text : List Char} {m : Match}
    (found : g.run text .whole = some m) : m.stop = Text.byteLength text := by
  rw [stop_of_matchFrom_whole (run_eq_matchFrom g text .whole ▸ found), Nat.zero_add]

theorem run_leading_eq_some_iff {g : Graph} {text : List Char} {m : Match} :
    g.run text .leading = some m ↔
      IsBoundary text m.stop ∧ g.run (takeBytes m.stop text) .whole = some m ∧
        ∀ n, n < m.stop → IsBoundary text n → g.run (takeBytes n text) .whole = none := by
  rw [run_leading_eq_findSome?, Text.findSome?_inits_eq_some_iff]
  constructor
  · rintro ⟨front, leading, found, missed⟩
    have stop := stop_of_run_whole found
    rw [stop, Text.takeBytes_byteLength leading]
    refine ⟨Text.isBoundary_byteLength leading, found, ?_⟩
    rintro _ below ⟨shorter, within, rfl⟩
    rw [Text.takeBytes_byteLength within]
    exact missed shorter within below
  · rintro ⟨⟨front, leading, stop⟩, found, missed⟩
    rw [← stop, Text.takeBytes_byteLength leading] at found
    refine ⟨front, leading, found, ?_⟩
    intro shorter within below
    have missing :=
      missed (Text.byteLength shorter) (stop ▸ below) (Text.isBoundary_byteLength within)
    rwa [Text.takeBytes_byteLength within] at missing

theorem run_leading_eq_none_iff {g : Graph} {text : List Char} :
    g.run text .leading = none ↔
      ∀ n, IsBoundary text n → g.run (takeBytes n text) .whole = none := by
  rw [run_leading_eq_findSome?, List.findSome?_eq_none_iff]
  constructor
  · rintro missed _ ⟨front, leading, rfl⟩
    rw [Text.takeBytes_byteLength leading]
    exact missed front ((List.mem_inits front text).2 leading)
  · intro missed front member
    have leading := (List.mem_inits front text).1 member
    have missing := missed (Text.byteLength front) (Text.isBoundary_byteLength leading)
    rwa [Text.takeBytes_byteLength leading] at missing

theorem isSome_run_leading_of_whole {g : Graph} {text : List Char}
    (whole : (g.run text .whole).isSome) : (g.run text .leading).isSome := by
  rw [run_leading_eq_findSome?, List.findSome?_isSome_iff]
  exact ⟨text, (List.mem_inits text text).2 List.prefix_rfl, whole⟩

/-- What follows the text that a leading walk accepted has no influence on it. -/
theorem run_leading_append {g : Graph} {text : List Char} {m : Match}
    (found : g.run text .leading = some m) (more : List Char) :
    g.run (text ++ more) .leading = some m := by
  rw [run_leading_eq_findSome?, Text.findSome?_inits_eq_some_iff] at found ⊢
  obtain ⟨front, leading, hit, missed⟩ := found
  refine ⟨front, leading.trans (List.prefix_append text more), hit, ?_⟩
  intro shorter within below
  -- of two prefixes of one text the shorter one is a prefix of the other
  rcases List.prefix_or_prefix_of_prefix within
    (leading.trans (List.prefix_append text more)) with inner | outer
  · exact missed shorter (inner.trans leading) below
  · obtain ⟨suffix, rfl⟩ := outer
    rw [Text.byteLength_append] at below
    omega

/-- A leading match is the shortest prefix with a whole match, and there is none if no prefix has
one. So a whole match implies a leading one, and a leading match stays as the text goes on. -/
theorem leading_match_is_shortest_whole_match (g : Graph) (text : List Char) :
    (∀ m, g.run text .leading = some m ↔
      IsBoundary text m.stop ∧ g.run (takeBytes m.stop text) .whole = some m ∧
        ∀ n, n < m.stop → IsBoundary text n → g.run (takeBytes n text) .whole = none) ∧
    (g.run text .leading = none ↔
      ∀ n, IsBoundary text n → g.run (takeBytes n text) .whole = none) ∧
    ((g.run text .whole).isSome → (g.run text .leading).isSome) ∧
    ∀ m, g.run text .leading = some m → ∀ more, g.run (text ++ more) .leading = some m :=
  ⟨fun _ => run_leading_eq_some_iff, run_leading_eq_none_iff, isSome_run_leading_of_whole,
    fun _ found more => run_leading_append found more⟩

end PatternGraph.Graph
