import WebServer.Target

/-!
# WebServer.Proofs.Target.Path

Which paths request targets have. Resolving `.` and `..` segments never takes the first slash
off a path (`Path.Rooted.close`), so a path in normal form starts with a slash, unless there is
none at all.

Main statement: the path of a target is an asterisk, empty, or starts with a slash
(`Target.IsPath.of_parse?`).
-/

namespace WebServer

namespace Path

variable {kind : SchemeKind} {path done seg more start cs rest : List Char} {slash : Bool}

/-- Whether a path, written last character first, starts with a slash. -/
def Rooted (path : List Char) : Prop := path.getLast? = some '/'

namespace Rooted

theorem append (seg : List Char) (h : Rooted done) : Rooted (seg ++ done) := by
  rw [Rooted, List.getLast?_append, h, Option.some_or]

theorem cons (c : Char) (h : Rooted done) : Rooted (c :: done) := append [c] h

/-- A path that goes on behind its last slash keeps the first one. -/
theorem of_cons (h : Rooted ('/' :: more)) (hmore : '/' ∈ more) : Rooted more := by
  rw [Rooted, List.getLast?_cons_of_ne_nil (List.ne_nil_of_mem hmore)] at h
  exact h

theorem dropWhile (h : Rooted path) : Rooted (path.dropWhile (· ≠ '/')) := by
  have hsplit : path.takeWhile (· ≠ '/') ++ path.dropWhile (· ≠ '/') = path :=
    List.takeWhile_append_dropWhile
  rw [Rooted, ← hsplit, List.getLast?_append] at h
  cases hlast : (path.dropWhile (· ≠ '/')).getLast? with
  | some c => rwa [hlast, Option.some_or, ← hlast] at h
  | none =>
      -- then the first slash would be in front of the first slash
      rw [hlast, Option.none_or] at h
      have hslash := List.all_eq_true.1 List.all_takeWhile '/' (List.mem_of_getLast? h)
      simp at hslash

theorem pop (h : Rooted path) : Rooted (pop kind path) := by
  unfold Path.pop
  dsimp only
  split
  · exact h
  · exact h.dropWhile

theorem withSlash (h : Rooted path) : Rooted (withSlash path) := by
  unfold Path.withSlash
  split
  · exact h
  · exact h.cons '/'

/-- Dropping the slash behind a segment that goes keeps the first one. -/
theorem shorten (done : List Char) : Rooted done → Rooted (match done with
    | '/' :: more => if slashMayGo more then more else done
    | _ => done) := by
  intro h
  split
  · next more =>
      split
      · next hgo =>
          simp only [slashMayGo, Bool.and_eq_true, List.contains_iff_mem] at hgo
          exact h.of_cons hgo.1
      · exact h
  · exact h

theorem close (h : Rooted done) : Rooted (close kind done seg slash) := by
  unfold Path.close
  dsimp only
  split
  · split
    · exact (shorten done h).pop.withSlash
    · exact (shorten done h).pop
  · split
    · exact h.withSlash
    · split
      · exact (h.append _).cons '/'
      · exact h.append _

theorem readFrom (h : Rooted done) : Rooted (readFrom kind done seg cs).1 := by
  fun_induction Path.readFrom kind done seg cs with
  | case1 done seg => exact h.close
  | case2 done seg c cs _ ih => exact ih h.close
  | case3 done seg c cs => exact h.close
  | case4 done seg c cs _ _ ih => exact ih h

end Rooted

/-- A path that is read behind a slash starts with one, and so does every `file` path. -/
theorem head?_read (h : kind = .file ∨ start.head? = some '/') :
    (read kind start cs).1.head? = some '/' := by
  unfold read
  dsimp only
  split
  · rfl
  · next hkind =>
      rw [List.head?_reverse]
      have hstart : Rooted start.reverse := by
        rw [Rooted, List.getLast?_reverse]
        exact h.resolve_left hkind
      exact hstart.readFrom

/-- The slash in front of a path ends an empty segment, and stays. -/
theorem head?_read_slash (cs : List Char) : (read .other [] ('/' :: cs)).1.head? = some '/' := by
  have hfirst : readFrom .other [] [] ('/' :: cs) = readFrom .other ['/'] [] cs := by
    rw [readFrom, if_pos (.inl rfl)]
    rfl
  have hread : (read .other [] ('/' :: cs)).1 = (read .other ['/'] cs).1 := by
    simp only [read, List.reverse_nil, List.reverse_singleton, hfirst]
  rw [hread]
  exact head?_read (.inr rfl)

end Path

namespace Url

variable {kind : SchemeKind} {cs path rest : List Char}

/-- The path behind an authority starts with a slash, if there is one. -/
theorem pathAfter_fst (kind : SchemeKind) (cs : List Char) :
    (pathAfter kind cs).1 = [] ∨ (pathAfter kind cs).1.head? = some '/' := by
  unfold pathAfter
  split
  · split <;> exact .inr (Path.head?_read (.inr rfl))
  · next hspecial =>
      obtain rfl : kind = .other := by cases kind <;> simp_all [SchemeKind.isSpecial]
      split
      · exact .inl rfl
      · exact .inl rfl
      · exact .inl rfl
      · next rest => exact .inr (Path.head?_read_slash rest)
      · exact .inr (Path.head?_read (.inr rfl))

theorem head?_filePath? (h : filePath? cs = some (path, rest)) : path.head? = some '/' := by
  have hread : ∀ {start cs}, some (Path.read .file start cs) = some (path, rest) →
      path.head? = some '/' := by
    intro start cs h
    obtain rfl : (Path.read .file start cs).1 = path := congrArg Prod.fst (Option.some.inj h)
    exact Path.head?_read (.inl rfl)
  unfold filePath? at h
  dsimp only at h
  repeat' split at h
  all_goals first | exact hread h | contradiction

theorem fst_path? (h : path? kind cs = some (path, rest)) :
    path = [] ∨ path.head? = some '/' := by
  have hafter : ∀ {authority : Option (List Char)},
      authority.map (pathAfter kind) = some (path, rest) → path = [] ∨ path.head? = some '/' := by
    intro authority h
    obtain ⟨cs, _, hcs⟩ := Option.map_eq_some_iff.1 h
    obtain rfl : (pathAfter kind cs).1 = path := congrArg Prod.fst hcs
    exact pathAfter_fst kind cs
  unfold path? at h
  split at h
  · exact .inr (head?_filePath? h)
  · exact hafter h
  · split at h
    · exact hafter h
    · next cs _ =>
        obtain rfl : (Path.read .other ['/'] cs).1 = path := congrArg Prod.fst (Option.some.inj h)
        exact .inr (Path.head?_read (.inr rfl))
    · contradiction

end Url

namespace Target

variable {target path : String} {query : Option String}

/-- The path of a target: an asterisk, nothing, or a text that starts with a slash. -/
def IsPath (path : String) : Prop := path = "*" ∨ path = "" ∨ path.toList.head? = some '/'

/-- A target is cut behind its first character, if that is a slash. -/
theorem head?_split (h : target.toList.head? = some '/') :
    (split target).1.toList.head? = some '/' := by
  unfold split
  split
  · next p q hsplit =>
      obtain ⟨htarget, _⟩ := splitOnce_eq_some_iff.1 hsplit
      rw [htarget] at h
      rw [String.toList_ofList]
      cases p with
      | nil => simp at h
      | cons c cs => exact h
  · exact h

/-- Whatever its form, a target that is read has such a path. -/
theorem IsPath.of_parse? (h : parse? target = some (path, query)) : IsPath path := by
  unfold parse? at h
  split at h
  · next hform =>
      obtain rfl : (split target).1 = path := congrArg Prod.fst (Option.some.inj h)
      simp only [Bool.or_eq_true, decide_eq_true_eq, beq_iff_eq] at hform
      rcases hform with hslash | rfl
      · exact .inr (.inr (head?_split hslash))
      · exact .inl (by decide)
  · unfold Url.parse? at h
    simp only [Option.bind_eq_bind, Option.bind_eq_some_iff, Option.pure_def, Option.some.injEq,
      Prod.mk.injEq, Prod.exists] at h
    obtain ⟨scheme, _, _, path', rest, hpath, rfl, _⟩ := h
    refine .inr ((Url.fst_path? hpath).imp ?_ ?_)
    · rintro rfl
      rfl
    · rw [String.toList_ofList]
      exact id

end Target

end WebServer
