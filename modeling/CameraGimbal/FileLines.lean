/-
This file is a library on the lines of a file: a list of texts each of which ends in its only
newline, but for a last one that need not end in one. Such a list is what `getline` reads from the
file it makes up, so that lines can be taken away and added.
-/

import CameraGimbal.CText

namespace CText

open List

/-- The lines of some file. -/
inductive Lines : List Text → Prop where
  | nil : Lines []
  | last {text : Text} : text ≠ [] → newline ∉ text → Lines [text]
  | cons {body : Text} {rest : List Text} :
      newline ∉ body → Lines rest → Lines ((body ++ [newline]) :: rest)

/-- A line without its newline. -/
def lineBody (line : Text) : Text := line.takeWhile (· != newline)

/-- The lines of a file without their newlines. -/
def bodies (file : Text) : List Text := (getline file).map lineBody

/-- A file that ends its last line. -/
def terminated (file : Text) : Text :=
  if file ≠ [] ∧ file.getLast? ≠ some newline then file ++ [newline] else file

/-- Lines with these bodies. -/
def closed (texts : List Text) : List Text := texts.map (· ++ [newline])

/-! ### Bodies -/

theorem bne_newline {byte : UInt8} (other : byte ≠ newline) : (byte != newline) = true :=
  bne_iff_ne.mpr other

theorem lineBody_fresh {text : Text} (fresh : newline ∉ text) : lineBody text = text :=
  takeWhile_eq_self_iff.mpr fun _ member =>
    bne_newline fun isNewline => fresh (isNewline ▸ member)

theorem lineBody_closed {body : Text} (fresh : newline ∉ body) :
    lineBody (body ++ [newline]) = body := by
  unfold lineBody
  rw [takeWhile_append_of_pos fun _ member =>
    bne_newline fun isNewline => fresh (isNewline ▸ member)]
  exact append_nil body

theorem newline_notMem_lineBody (line : Text) : newline ∉ lineBody line := fun member =>
  have different := @mem_takeWhile_imp _ (· != newline) line newline member
  absurd rfl (bne_iff_ne.mp different)

/-! ### Reading lines -/

theorem getlineFrom_last {gathered text : Text} (nonempty : gathered ++ text ≠ [])
    (fresh : newline ∉ text) : getlineFrom gathered text = [gathered ++ text] := by
  induction text generalizing gathered with
  | nil =>
    rw [append_nil] at nonempty ⊢
    exact if_neg nonempty
  | cons byte rest hypothesis =>
    obtain ⟨different, freshRest⟩ := not_or.mp (mt mem_cons.mpr fresh)
    have split : gathered ++ byte :: rest = gathered ++ [byte] ++ rest := by simp
    rw [getlineFrom, if_neg (Ne.symm different), split]
    exact hypothesis (by simp) freshRest

theorem getlineFrom_cons (gathered : Text) {body : Text} (rest : Text) (fresh : newline ∉ body) :
    getlineFrom gathered (body ++ newline :: rest) =
      (gathered ++ body ++ [newline]) :: getlineFrom [] rest := by
  induction body generalizing gathered with
  | nil =>
    rw [nil_append, getlineFrom, if_pos rfl, append_nil]
  | cons byte others hypothesis =>
    obtain ⟨different, freshOthers⟩ := not_or.mp (mt mem_cons.mpr fresh)
    rw [cons_append, getlineFrom, if_neg (Ne.symm different), hypothesis _ freshOthers]
    simp

/-- `getline` reads the lines a file is made of. -/
theorem Lines.getline {lines : List Text} (isLines : Lines lines) :
    CText.getline lines.flatten = lines := by
  unfold CText.getline
  induction isLines with
  | nil => rfl
  | @last text nonempty fresh =>
    rw [flatten_singleton]
    exact getlineFrom_last nonempty fresh
  | @cons body rest fresh _ hypothesis =>
    rw [flatten_cons, append_assoc, singleton_append, getlineFrom_cons [] _ fresh,
      hypothesis, nil_append]

theorem lines_getlineFrom {gathered : Text} (rest : Text) (fresh : newline ∉ gathered) :
    Lines (getlineFrom gathered rest) := by
  induction rest generalizing gathered with
  | nil =>
    unfold getlineFrom
    split
    · exact .nil
    next nonempty => exact .last nonempty fresh
  | cons byte rest hypothesis =>
    unfold getlineFrom
    split
    next isNewline =>
      rw [isNewline]
      exact .cons fresh (hypothesis not_mem_nil)
    next different =>
      refine hypothesis fun member => ?_
      rcases mem_append.mp member with before | this
      · exact fresh before
      · exact different (mem_singleton.mp this).symm

theorem lines_getline (file : Text) : Lines (CText.getline file) :=
  lines_getlineFrom file not_mem_nil

/-! ### Taking a line away -/

theorem Lines.erase {earlier : List Text} {line : Text} {later : List Text}
    (isLines : Lines (earlier ++ line :: later)) : Lines (earlier ++ later) := by
  induction earlier with
  | nil =>
    cases isLines with
    | last => exact .nil
    | cons _ rest => exact rest
  | cons first others hypothesis =>
    rw [cons_append] at isLines ⊢
    have tail : others ++ line :: later ≠ [] := by simp
    generalize isTail : others ++ line :: later = rest at isLines tail
    cases isLines with
    | last => exact absurd rfl tail
    | cons fresh isRest => exact .cons fresh (hypothesis (isTail ▸ isRest))

/-! ### Adding lines -/

variable {texts : List Text}

theorem lines_closed (fresh : ∀ text ∈ texts, newline ∉ text) :
    Lines (closed texts) := by
  induction texts with
  | nil => exact .nil
  | cons text rest hypothesis =>
    obtain ⟨first, others⟩ := forall_mem_cons.mp fresh
    exact .cons first (hypothesis others)

theorem bodies_closed (fresh : ∀ text ∈ texts, newline ∉ text) :
    bodies (closed texts).flatten = texts := by
  unfold bodies
  rw [(lines_closed fresh).getline, closed, map_map]
  refine (map_congr_left fun text member => ?_).trans (map_id texts)
  exact lineBody_closed (fresh text member)

theorem newline_notMem_bodies {file : Text} : ∀ text ∈ bodies file, newline ∉ text := by
  intro text member
  obtain ⟨line, -, rfl⟩ := mem_map.mp member
  exact newline_notMem_lineBody line

theorem terminated_append (earlier : Text) {later : Text} (nonempty : later ≠ []) :
    terminated (earlier ++ later) = earlier ++ terminated later := by
  unfold terminated
  rw [getLast?_append_of_ne_nil earlier nonempty]
  by_cases ended : later.getLast? = some newline
  · rw [if_neg fun both => both.2 ended, if_neg fun both => both.2 ended]
  · rw [if_pos ⟨append_ne_nil_of_right_ne_nil earlier nonempty, ended⟩,
      if_pos ⟨nonempty, ended⟩, append_assoc]

theorem Lines.terminated {lines : List Text} (isLines : Lines lines) :
    CText.terminated lines.flatten = (closed (lines.map lineBody)).flatten := by
  induction isLines with
  | nil => rfl
  | @last text nonempty fresh =>
    have ended : text.getLast? ≠ some newline := fun isLast =>
      fresh (mem_of_getLast? isLast)
    rw [flatten_singleton, CText.terminated, if_pos ⟨nonempty, ended⟩, map_singleton,
      lineBody_fresh fresh]
    exact flatten_singleton.symm
  | @cons body rest fresh _ hypothesis =>
    rw [flatten_cons, map_cons, lineBody_closed fresh, closed, map_cons,
      flatten_cons, ← closed, ← hypothesis]
    by_cases empty : rest.flatten = []
    · rw [empty, append_nil, CText.terminated, if_neg fun both => both.2 (by simp)]
      exact (append_nil _).symm
    · exact terminated_append _ empty

/-- A terminated file has the same lines, all of them closed. -/
theorem terminated_eq (file : Text) : terminated file = (closed (bodies file)).flatten := by
  have lines := (lines_getline file).terminated
  rwa [getline_flatten] at lines

/-- Lines added to a terminated file come after its own. -/
theorem bodies_append {file : Text} (fresh : ∀ text ∈ texts, newline ∉ text) :
    bodies (terminated file ++ (closed texts).flatten) = bodies file ++ texts := by
  have together : terminated file ++ (closed texts).flatten =
      (closed (bodies file ++ texts)).flatten := by
    rw [terminated_eq, closed, closed, closed, map_append, flatten_append]
  rw [together]
  refine bodies_closed fun text member => ?_
  rcases mem_append.mp member with own | added
  · exact newline_notMem_bodies text own
  · exact fresh text added

end CText
