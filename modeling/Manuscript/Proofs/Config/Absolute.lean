import Manuscript.Config.Load
import Manuscript.Proofs.Storage.Ancestry

/-!
# Paths from the root

The path of a location from the root (`Config.absolutePath`) has the names of the location for its
components, and leads there. Relative paths that are joined to it are seen from the location, and
its parent is the path of the location above.
-/

namespace Manuscript

open FileSystem (IsName Hangs)

namespace Config

variable {files : FileSystem} {place : Location} {name text : String}

theorem absolutePath_concat (hn : place ≠ []) (name : String) :
    absolutePath (place ++ [name]) = ⟨(absolutePath place).text ++ "/" ++ name⟩ := by
  simp only [absolutePath, Path.intercalate_concat hn, String.append_assoc]

theorem steps_absolutePath (h : ∀ name ∈ place, IsName name) (hn : place ≠ []) :
    (absolutePath place).steps = "" :: place := by
  have split := Path.steps_append_slash "" ("/".intercalate place)
  rw [String.empty_append, Path.steps_intercalate (fun name hm ↦ (h name hm).slash) hn] at split
  exact split

theorem components_absolutePath (h : ∀ name ∈ place, IsName name) :
    (absolutePath place).components = place := by
  rw [absolutePath, Path.components_slash,
    Path.components_intercalate fun name hm ↦ (h name hm).slash, List.filter_eq_self]
  intro name hm
  rw [(h name hm).idle]
  rfl

theorem isAbsolute_absolutePath (place : Location) : (absolutePath place).isAbsolute = true := by
  simp [absolutePath, Path.isAbsolute, String.toList_append]

/-- The path of a directory ends in a slash only if it is the root. -/
theorem getLast?_absolutePath (h : ∀ name ∈ place, IsName name) (hn : place ≠ []) :
    (absolutePath place).text ≠ "" ∧ (absolutePath place).text.toList.getLast? ≠ some '/' := by
  have steps := steps_absolutePath h hn
  constructor
  · intro empty
    rw [Path.steps, empty] at steps
    exact hn (List.cons.inj steps).2.symm
  · intro slash
    obtain ⟨front, hf⟩ := List.getLast?_eq_some_iff.mp slash
    rw [Path.steps, hf, Path.pieces_append_slash, List.map_append] at steps
    rw [← List.dropLast_concat_getLast hn, ← List.cons_append] at steps
    have same : "" = place.getLast hn := List.singleton_inj.mp (List.append_inj' steps rfl).2
    have counts := (h _ (List.getLast_mem hn)).idle
    rw [← same] at counts
    cases counts

/-- A relative path is seen from a directory as if it were a name in it. -/
theorem join_absolutePath (h : ∀ name ∈ place, IsName name)
    (relative : (Path.mk text).isAbsolute = false) :
    (absolutePath place).join text = absolutePath (place ++ [text]) := by
  rw [Path.join, if_neg (by rw [relative]; exact Bool.false_ne_true)]
  by_cases hn : place = []
  · subst hn
    rw [if_pos (.inr (by decide))]
    rfl
  · obtain ⟨filled, open'⟩ := getLast?_absolutePath h hn
    rw [if_neg (not_or.mpr ⟨filled, open'⟩), absolutePath_concat hn]

theorem components_absolutePath_concat (h : ∀ name ∈ place, IsName name) (text : String) :
    (absolutePath (place ++ [text])).components = place ++ (Path.mk text).components := by
  by_cases hn : place = []
  · subst hn
    exact Path.components_slash text
  · rw [absolutePath_concat hn, Path.components_append_slash]
    exact congrArg (· ++ _) (components_absolutePath h)

/-- The parent of what lies in a directory is the directory. -/
theorem parent?_absolutePath (h : ∀ other ∈ place ++ [name], IsName other) :
    (absolutePath (place ++ [name])).parent? = some (absolutePath place) := by
  rw [List.forall_mem_append, List.forall_mem_singleton] at h
  obtain ⟨first, rest, hp⟩ := List.exists_cons_of_ne_nil (show place ++ [name] ≠ [] by simp)
  have steps : (absolutePath (place ++ [name])).steps = "" :: first :: rest := by
    rw [steps_absolutePath (List.forall_mem_append.mpr
      ⟨h.1, List.forall_mem_singleton.mpr h.2⟩) (by simp), hp]
  have above : Path.above? (first :: rest) = some place := by
    rw [← hp, Path.above?_concat (fun step hs ↦ (h.1 step hs).idle) h.2.idle]
  rw [Path.parent?, steps]
  simp only [above, Option.map_some]
  rfl

theorem parent?_absolutePath_nil : (absolutePath []).parent? = none := by decide

theorem locate_absolutePath (h : files.Hangs place) (hn : place ≠ [])
    (short : (absolutePath place).text.utf8ByteSize ≤ FileSystem.maxPathLength) :
    files.locate (absolutePath place) = .ok place := by
  have clean : '\x00' ∉ (absolutePath place).text.toList := by
    rw [absolutePath, String.toList_append, List.mem_append, not_or]
    refine ⟨by decide, fun null ↦ ?_⟩
    rcases Path.mem_intercalate null with slash | ⟨name, hm, inside⟩
    · exact absurd slash (by decide)
    · exact (h.names name hm).null inside
  refine FileSystem.locate_eq_ok_iff.mpr
    ⟨⟨by simpa using clean, short, (getLast?_absolutePath h.names hn).1⟩, ?_⟩
  rw [FileSystem.origin, isAbsolute_absolutePath, if_pos rfl, steps_absolutePath h.names hn]
  exact FileSystem.follow_cons_eq_ok_iff.mpr ⟨rfl, by decide, h.follow_eq⟩

end Config

end Manuscript
