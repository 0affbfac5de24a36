import Mathlib.Tactic.Common
import SignerTrust.Settings.Path

/-!
# What documents leave at a path

`view?` tells what stands at a path of a tree.  A document that spares the path leaves it as it was
(`view?_overlay_of_spares`), and a document that gives a value at it puts that there, whatever stood
in its way (`view?_overlay_of_gives`).  Names are compared in lower case, which most are in
(`Lower.text_of_isSmall`).
-/

namespace SignerTrust

namespace Lower

/-- Whether a character is an ASCII character, but no capital letter. -/
def isSmall (c : Char) : Bool :=
  c.toNat < 0x41 || (0x5a < c.toNat && c.toNat < 0x80)

theorem first_of_mem_ranges : ∀ r ∈ ranges, r.first = 0x41 ∧ r.last = 0x5a ∨ 0x80 ≤ r.first := by
  decide +kernel

theorem letter?_of_isSmall {c : Char} (h : isSmall c = true) : letter? c = none := by
  simp only [isSmall, Bool.or_eq_true, Bool.and_eq_true, decide_eq_true_eq] at h
  have hf : ranges.find? (fun r => r.first ≤ c.toNat && c.toNat ≤ r.last
      && (c.toNat - r.first) % r.step = 0) = none := by
    rw [List.find?_eq_none]
    intro r hm
    have hr := first_of_mem_ranges r hm
    simp only [Bool.and_eq_true, decide_eq_true_eq, not_and]
    omega
  rw [letter?, hf, Option.map_none]

theorem chars_of_isSmall : ∀ {cs : List Char} (before : List Char), (∀ c ∈ cs, isSmall c = true) →
    chars before cs = cs
  | [], _, _ => rfl
  | c :: cs, before, h => by
    obtain ⟨hc, hcs⟩ := List.forall_mem_cons.1 h
    have hd : c ≠ dottedCapital := by
      rintro rfl
      exact absurd hc (by decide)
    have hs : c ≠ capitalSigma := by
      rintro rfl
      exact absurd hc (by decide)
    rw [chars, chars_of_isSmall (c :: before) hcs]
    simp [hd, hs, letter?_of_isSmall hc]

/-- An ASCII text without capital letters stays as it is. -/
theorem text_of_isSmall {t : String} (h : ∀ c ∈ t.toList, isSmall c = true) : text t = t := by
  rw [text, chars_of_isSmall [] h, String.ofList_toList]

end Lower

namespace SettingTree

/-- What stands at a path.  There is no telling if the path leads through what is no table; if one
of its names is missing, nothing stands there. -/
def view? : List String → SettingTree → Option (Option SettingTree)
  | [], t => some (some t)
  | name :: path, table es =>
    match es.lookup name with
    | none => some none
    | some t => view? path t
  | _ :: _, _ => none

/-- Whether a value leaves alone what stands at a path of the tree that it is laid over. -/
def Spares : List String → SettingTree → Prop
  | [], _ => False
  | name :: path, table es => ∀ e ∈ es, Lower.text e.1 = name → Spares path e.2
  | _ :: _, _ => False

/-- Whether a value has `v` at a path: the last of its entries that does not leave the path alone
has it. -/
def Gives (v : SettingTree) : List String → SettingTree → Prop
  | [], t => t = v
  | name :: path, table es => ∃ before e after, es = before ++ e :: after
    ∧ Lower.text e.1 = name ∧ Gives v path e.2 ∧ Spares (name :: path) (table after)
  | _ :: _, _ => False

/-- Whether a tree is no table. -/
def IsLeaf : SettingTree → Prop
  | table _ => False
  | _ => True

theorem lookup_cons_eq (k name : String) (v : SettingTree) (es : List (String × SettingTree)) :
    ((name, v) :: es).lookup k = if k = name then some v else es.lookup k := by
  rw [List.lookup_cons]
  by_cases hk : k = name
  · simp [hk]
  · rw [if_neg hk, beq_false_of_ne hk]

theorem lookup_alter (name k : String) (f : Option SettingTree → SettingTree) :
    ∀ es : List (String × SettingTree), (alter name f es).lookup k
      = if k = name then some (f (es.lookup name)) else es.lookup k
  | [] => lookup_cons_eq k name (f none) []
  | (k', v) :: rest => by
    have ih := lookup_alter name k f rest
    unfold alter
    split_ifs with hk' hk hk
    · rw [lookup_cons_eq, lookup_cons_eq, if_pos (hk.trans hk'.symm), if_pos hk'.symm]
    · rw [lookup_cons_eq, lookup_cons_eq, if_neg (hk' ▸ hk), if_neg (hk' ▸ hk)]
    · rw [lookup_cons_eq, lookup_cons_eq, ih, if_pos hk, if_neg fun h => hk' (h.symm.trans hk),
        if_neg fun h => hk' h.symm]
    · rw [lookup_cons_eq, lookup_cons_eq, ih, if_neg hk]

theorem view?_cons_eq_some {name : String} {path : List String} {t : SettingTree}
    {o : Option SettingTree} (h : view? (name :: path) t = some o) :
    ∃ es, t = table es ∧ (es.lookup name = none ∧ o = none
      ∨ ∃ u, es.lookup name = some u ∧ view? path u = some o) := by
  cases t with
  | table es =>
    refine ⟨es, rfl, ?_⟩
    simp only [view?] at h
    split at h
    · rename_i hl
      exact .inl ⟨hl, (Option.some.inj h).symm⟩
    · rename_i u hl
      exact .inr ⟨u, hl, h⟩
  | _ => cases h

theorem view?_update {name k : String} {path : List String} {f : Option SettingTree → SettingTree}
    (es : List (String × SettingTree)) :
    view? (k :: path) ((table es).update name f)
      = if k = Lower.text name then view? path (f (es.lookup k))
        else view? (k :: path) (table es) := by
  unfold update
  simp only [view?, entries, lookup_alter]
  by_cases hk : k = Lower.text name
  · subst hk
    simp
  · simp [hk]

/-- A change of an entry leaves alone what it leaves alone of the entry. -/
theorem view?_update_of {t : SettingTree} {name k : String} {path : List String}
    {f : Option SettingTree → SettingTree} {o : Option SettingTree}
    (hv : view? (k :: path) t = some o)
    (hf : Lower.text name = k → ∀ old, ((old = none ∧ o = none) ∨ ∃ u, old = some u
      ∧ view? path u = some o) → view? path (f old) = some o) :
    view? (k :: path) (t.update name f) = some o := by
  obtain ⟨es, rfl, hl⟩ := view?_cons_eq_some hv
  rw [view?_update]
  split_ifs with hk
  · exact hf hk.symm _ hl
  · exact hv

theorem put_of_isLeaf {t v : SettingTree} (hv : v.IsLeaf) (name : String) :
    put t name v = t.update name fun _ => v := by
  cases v with
  | table es => cases hv
  | _ => rfl

theorem putAll_append (t : SettingTree) (es es' : List (String × SettingTree)) :
    putAll t (es ++ es') = putAll (putAll t es) es' := by
  induction es generalizing t with
  | nil => simp [putAll]
  | cons e es ih =>
    rw [List.cons_append, putAll, putAll]
    exact ih _

theorem not_spares_of_isLeaf {v : SettingTree} (hv : v.IsLeaf) : ∀ path, ¬ Spares path v
  | [], h => h
  | _ :: _, h => by
    cases v with
    | table es => exact hv
    | _ => exact h

theorem view?_put_of_isLeaf (v : SettingTree) (hl : v.IsLeaf) {t : SettingTree} {name k : String}
    {path : List String} {o : Option SettingTree} (hs : Lower.text name = k → Spares path v)
    (hv : view? (k :: path) t = some o) : view? (k :: path) (put t name v) = some o := by
  rw [put_of_isLeaf hl]
  exact view?_update_of hv fun hk => absurd (hs hk) (not_spares_of_isLeaf hl path)

mutual

theorem view?_put_of_spares : ∀ (value : SettingTree) {t : SettingTree} {name k : String}
    {path : List String} {o : Option SettingTree}, (Lower.text name = k → Spares path value) →
    view? (k :: path) t = some o → view? (k :: path) (put t name value) = some o
  | table es, t, name, k, path, o, hs, hv => by
    rw [put]
    -- The table is laid over what the path leads through, or over an empty table.
    refine view?_update_of hv fun hk old hold => ?_
    have hs := hs hk
    rcases path with _ | ⟨m, path⟩
    · cases hs
    refine view?_putAll_of_spares es hs ?_
    rcases hold with ⟨rfl, rfl⟩ | ⟨u, rfl, hu⟩
    · rfl
    · exact hu
  | absent, _, _, _, _, _, hs, hv => view?_put_of_isLeaf absent trivial hs hv
  | flag b, _, _, _, _, _, hs, hv => view?_put_of_isLeaf (flag b) trivial hs hv
  | integer n, _, _, _, _, _, hs, hv => view?_put_of_isLeaf (integer n) trivial hs hv
  | float x, _, _, _, _, _, hs, hv => view?_put_of_isLeaf (float x) trivial hs hv
  | text s, _, _, _, _, _, hs, hv => view?_put_of_isLeaf (text s) trivial hs hv
  | list xs, _, _, _, _, _, hs, hv => view?_put_of_isLeaf (list xs) trivial hs hv

theorem view?_putAll_of_spares : ∀ (es : List (String × SettingTree)) {t : SettingTree} {k : String}
    {path : List String} {o : Option SettingTree}, Spares (k :: path) (table es) →
    view? (k :: path) t = some o → view? (k :: path) (putAll t es) = some o
  | [], _, _, _, _, _, hv => by rwa [putAll]
  | (name, v) :: rest, _, _, _, _, hs, hv => by
    rw [putAll]
    obtain ⟨h, hrest⟩ := List.forall_mem_cons.1 hs
    exact view?_putAll_of_spares rest hrest (view?_put_of_spares v h hv)

end

/-- Entries that give a value at a path put it there. -/
theorem view?_putAll_of_gives {v : SettingTree} (hl : v.IsLeaf) : ∀ {path : List String}
    {k : String} {es : List (String × SettingTree)} (t : SettingTree),
    Gives v (k :: path) (table es) → view? (k :: path) (putAll t es) = some (some v)
  | path, k, es, t, h => by
    obtain ⟨before, ⟨name, u⟩, after, rfl, rfl, hg, ha⟩ := h
    rw [putAll_append, putAll]
    refine view?_putAll_of_spares after ha ?_
    generalize putAll t before = t'
    rcases path with _ | ⟨m, path⟩
    · obtain rfl : u = v := hg
      rw [put_of_isLeaf hl]
      exact (view?_update t'.entries).trans (if_pos rfl)
    · cases u with
      | table inner =>
        rw [put]
        refine (view?_update t'.entries).trans ((if_pos rfl).trans ?_)
        exact view?_putAll_of_gives hl _ hg
      | _ => cases hg

theorem view?_put_of_gives {v u : SettingTree} (hl : v.IsLeaf) {name : String} {path : List String}
    (t : SettingTree) (hg : Gives v path u) :
    view? (Lower.text name :: path) (put t name u) = some (some v) := by
  have h : Gives v (Lower.text name :: path) (table [(name, u)]) :=
    ⟨[], (name, u), [], rfl, rfl, hg, by simp [Spares]⟩
  have := view?_putAll_of_gives hl t h
  rwa [putAll, putAll] at this

/-- The tables that the steps of a path make around a value, if they lead through no list. -/
def within? : List PathStep → SettingTree → Option SettingTree
  | [], v => some v
  | .child name :: steps, v => (within? steps v).map fun u => table [(name, u)]
  | .item _ :: _, _ => none

/-- Whether a document leaves alone what stands at a path. -/
def SparedBy (path : List String) (document : List (String × SettingTree)) : Prop :=
  ∀ e ∈ document, path.head? = some (Lower.text (SettingPath.ofText e.1).head) →
    ∃ u, within? (SettingPath.ofText e.1).steps e.2 = some u ∧ Spares path.tail u

/-- Whether the last of a document's entries that does not leave a path alone has `v` there. -/
def GivenBy (v : SettingTree) (path : List String) (document : List (String × SettingTree)) :
    Prop :=
  ∃ before e after, document = before ++ e :: after
    ∧ path.head? = some (Lower.text (SettingPath.ofText e.1).head)
    ∧ (∃ u, within? (SettingPath.ofText e.1).steps e.2 = some u ∧ Gives v path.tail u)
    ∧ SparedBy path after

theorem update_getD_absent (old : Option SettingTree) (name : String)
    (f : Option SettingTree → SettingTree) :
    (old.getD absent).update name f = (old.getD (table [])).update name f := by
  cases old <;> rfl

theorem put_getD_absent (old : Option SettingTree) (name : String) (v : SettingTree) :
    (old.getD absent).put name v = (old.getD (table [])).put name v := by
  cases v <;> exact update_getD_absent old name _

/-- A path through tables only lays the tables that it makes over the tree. -/
theorem putAt_of_within? : ∀ {steps : List PathStep} {v u : SettingTree} (t : SettingTree)
    (name : String), within? steps v = some u → putAt t name v steps = put t name u
  | [], v, u, t, name, h => by
    obtain rfl := Option.some.inj h
    rw [putAt]
  | .child next :: steps, v, u, t, name, h => by
    obtain ⟨w, hw, rfl⟩ := Option.map_eq_some_iff.1 h
    rw [putAt, put]
    congr 1
    funext old
    rw [putAt_of_within? _ next hw, put_getD_absent, putAll, putAll]
  | .item i :: steps, _, _, _, _, h => by cases h

theorem view?_putAt_of_ne {name k : String} {path : List String} {o : Option SettingTree}
    (hk : Lower.text name ≠ k) (v : SettingTree) :
    ∀ (steps : List PathStep) {t : SettingTree}, view? (k :: path) t = some o →
      view? (k :: path) (putAt t name v steps) = some o
  | [], t, hv => by
    rw [putAt]
    exact view?_put_of_spares v (fun h => absurd h hk) hv
  | .child next :: steps, t, hv => by
    rw [putAt]
    exact view?_update_of hv fun h => absurd h hk
  | .item i :: steps, t, hv => by
    rw [putAt]
    exact view?_update_of hv fun h => absurd h hk

theorem overlay_append (t : SettingTree) (d d' : List (String × SettingTree)) :
    overlay t (d ++ d') = overlay (overlay t d) d' :=
  List.foldl_append

theorem overlay_cons (t : SettingTree) (e : String × SettingTree)
    (d : List (String × SettingTree)) :
    overlay t (e :: d) = overlay (t.putAt (SettingPath.ofText e.1).head e.2
      (SettingPath.ofText e.1).steps) d :=
  rfl

/-- A document that spares a path leaves what stands there. -/
theorem view?_overlay_of_spares {k : String} {path : List String} {o : Option SettingTree} :
    ∀ {d : List (String × SettingTree)} {t : SettingTree}, SparedBy (k :: path) d →
      view? (k :: path) t = some o → view? (k :: path) (overlay t d) = some o
  | [], _, _, hv => hv
  | e :: d, t, hs, hv => by
    obtain ⟨he, hd⟩ := List.forall_mem_cons.1 hs
    rw [overlay_cons]
    refine view?_overlay_of_spares hd ?_
    by_cases hk : Lower.text (SettingPath.ofText e.1).head = k
    · obtain ⟨u, hu, hs⟩ := he (hk ▸ rfl)
      rw [putAt_of_within? _ _ hu]
      exact view?_put_of_spares u (fun _ => hs) hv
    · exact view?_putAt_of_ne hk _ _ hv

/-- A document that gives a value at a path puts it there. -/
theorem view?_overlay_of_gives {v : SettingTree} (hl : v.IsLeaf) {k : String} {path : List String}
    {d : List (String × SettingTree)} (t : SettingTree) (h : GivenBy v (k :: path) d) :
    view? (k :: path) (overlay t d) = some (some v) := by
  obtain ⟨before, e, after, rfl, hk, ⟨u, hu, hg⟩, ha⟩ := h
  rw [overlay_append, overlay_cons, putAt_of_within? _ _ hu]
  obtain rfl := Option.some.inj hk
  exact view?_overlay_of_spares ha (view?_put_of_gives hl _ hg)

end SettingTree

end SignerTrust
