import SignerTrust.Proofs.WrittenValue

/-!
# Lines come back

A line with a header opens its table, and a line with an entry adds it to the open table.  From this
the lines of a whole table follow (`Reads.entries`).
-/

namespace SignerTrust.Toml

/-- Whether a name needs no quotes as a key. -/
def IsKey (name : String) : Prop :=
  name.toList ≠ [] ∧ ∀ c ∈ name.toList, isKeyChar c = true

instance (name : String) : Decidable (IsKey name) :=
  decidable_of_iff (name.toList ≠ [] ∧ name.toList.all isKeyChar = true)
    (and_congr_right' List.all_eq_true)

section Key

variable {name : String} {c : Char} {cs : List Char}

theorem ne_of_isKeyChar (h : isKeyChar c = true) :
    isBlank c = false ∧ c ≠ '#' ∧ c ≠ '\n' ∧ c ≠ '\r' ∧ c ≠ '[' := by
  refine ⟨?_, ?_, ?_, ?_, ?_⟩
  · simp only [isBlank, Bool.or_eq_false_iff, decide_eq_false_iff_not]
    exact ⟨by rintro rfl; exact absurd h (by decide), by rintro rfl; exact absurd h (by decide)⟩
  all_goals
    rintro rfl
    exact absurd h (by decide)

theorem skipBlanks_of_not (h : isBlank c = false) : skipBlanks (c :: cs) = c :: cs := by
  simp [skipBlanks, h]

/-- A name starts with a character that opens no other line. -/
theorem IsKey.exists_eq (h : IsKey name) : ∃ c cs, name.toList = c :: cs ∧ isKeyChar c = true := by
  obtain ⟨c, cs, hc⟩ := List.exists_cons_of_ne_nil h.1
  exact ⟨c, cs, hc, h.2 c (by simp [hc])⟩

theorem IsKey.exists_append_eq (h : IsKey name) (cs : List Char) :
    ∃ d ds, name.toList ++ cs = d :: ds ∧ isKeyChar d = true := by
  obtain ⟨d, ds, hn, hd⟩ := h.exists_eq
  exact ⟨d, ds ++ cs, by rw [hn, List.cons_append], hd⟩

theorem IsKey.name? (h : IsKey name) (hc : isKeyChar c = false) :
    Toml.name? (name.toList ++ c :: cs) = some (name, c :: cs) := by
  have ht : (name.toList ++ c :: cs).takeWhile isKeyChar = name.toList := by
    rw [List.takeWhile_append_of_pos h.2, List.takeWhile_cons, if_neg (by simp [hc]),
      List.append_nil]
  have hd : (name.toList ++ c :: cs).dropWhile isKeyChar = c :: cs := by
    rw [List.dropWhile_append_of_pos h.2, List.dropWhile_cons, if_neg (by simp [hc])]
  obtain ⟨d, ds, hn, -⟩ := h.exists_eq
  rw [Toml.name?, ht, hd, hn]
  show some (String.ofList (d :: ds), c :: cs) = _
  rw [← hn, String.ofList_toList]

theorem IsKey.skipBlanks (h : IsKey name) :
    Toml.skipBlanks (name.toList ++ cs) = name.toList ++ cs := by
  obtain ⟨c, ds, hn, hc⟩ := h.exists_eq
  rw [hn, List.cons_append]
  exact skipBlanks_of_not (ne_of_isKeyChar hc).1

theorem IsKey.names?_last (h : IsKey name) (hc : isKeyChar c = false)
    (hd : (Toml.skipBlanks (c :: cs)).head? ≠ some '.') (n : Nat) :
    names? (n + 1) (name.toList ++ c :: cs) = some ([name], Toml.skipBlanks (c :: cs)) := by
  rw [names?, h.skipBlanks, h.name? hc]
  simp only [Option.bind_eq_bind, Option.bind_some]
  split
  · rename_i rest hr
    simp [hr] at hd
  · rfl

/-- The key before an equals sign. -/
theorem IsKey.key?_entry (h : IsKey name) (cs : List Char) :
    key? (name.toList ++ ' ' :: '=' :: cs) = some (([], name), '=' :: cs) := by
  have hn (n : Nat) : names? (n + 1) (name.toList ++ ' ' :: '=' :: cs) = some ([name], '=' :: cs) :=
    h.names?_last rfl (by simp [Toml.skipBlanks, isBlank]) n
  simp [key?, hn, maxDepth]

/-- The key of a header. -/
theorem IsKey.key?_header (h : IsKey name) (cs : List Char) :
    key? (name.toList ++ ']' :: cs) = some (([], name), ']' :: cs) := by
  have hn (n : Nat) : names? (n + 1) (name.toList ++ ']' :: cs) = some ([name], ']' :: cs) :=
    h.names?_last rfl (by simp [Toml.skipBlanks, isBlank]) n
  simp [key?, hn, maxDepth]

/-- The key of a header of a table in a table. -/
theorem IsKey.key?_below {below : String} (h : IsKey name) (hb : IsKey below) (cs : List Char) :
    key? (name.toList ++ '.' :: (below.toList ++ ']' :: cs))
      = some (([name], below), ']' :: cs) := by
  have hl (n : Nat) : names? (n + 1) (below.toList ++ ']' :: cs) = some ([below], ']' :: cs) :=
    hb.names?_last rfl (by simp [Toml.skipBlanks, isBlank]) n
  have hn (n : Nat) : names? (n + 2) (name.toList ++ '.' :: (below.toList ++ ']' :: cs))
      = some ([name, below], ']' :: cs) := by
    rw [names?, h.skipBlanks, h.name? rfl]
    simp [skipBlanks_of_not, isBlank, hl]
  obtain ⟨n, hlen⟩ : ∃ n, (name.toList ++ '.' :: (below.toList ++ ']' :: cs)).length = n + 1 :=
    ⟨name.toList.length + (below.toList ++ ']' :: cs).length, by simp; omega⟩
  rw [key?, hlen, hn]
  simp [maxDepth]

end Key

section Line

variable {name : String} {s : State} {es root : Entries} {rest : List Char}

theorem endLine?_newline (rest : List Char) : endLine? ('\n' :: rest) = some rest := rfl

/-- Whether a text is read to its end, and a document's entries come of it. -/
def Reads (s : State) (cs : List Char) (es : Entries) : Prop :=
  ∀ fuel, cs.length < fuel → lines? fuel s cs = some es

theorem Reads.nil (s : State) : Reads s [] s.root := by
  intro fuel hf
  obtain ⟨n, rfl⟩ : ∃ n, fuel = n + 1 := ⟨fuel - 1, by omega⟩
  rfl

theorem Reads.blank (h : Reads s rest es) : Reads s ('\n' :: rest) es := by
  intro fuel hf
  obtain ⟨n, rfl⟩ : ∃ n, fuel = n + 1 := ⟨fuel - 1, by omega⟩
  exact h n (by simpa using hf)

theorem lines?_of_isKey (h : IsKey name) (n : Nat) (cs : List Char) :
    lines? (n + 1) s (name.toList ++ cs)
      = (assignment? s (name.toList ++ cs)).bind fun r => lines? n r.1 r.2 := by
  obtain ⟨c, ds, hn, hc⟩ := h.exists_eq
  obtain ⟨hb, hh, hl, hr, ho⟩ := ne_of_isKeyChar hc
  rw [lines?, h.skipBlanks, hn, List.cons_append]
  split <;> simp_all

/-- An entry is added to the open table. -/
theorem Reads.entry {text : List Char} {v : Value} (hk : IsKey name) (ht : ReadsAs text v)
    (hw : s.root.within? (fun es => es.addDotted? name v []) s.openPath = some root)
    (h : Reads ⟨root, s.openPath⟩ rest es) :
    Reads s (name.toList ++ ' ' :: '=' :: ' ' :: (text ++ '\n' :: rest)) es := by
  intro fuel hf
  obtain ⟨n, rfl⟩ : ∃ n, fuel = n + 1 := ⟨fuel - 1, by omega⟩
  obtain ⟨⟨c, cs, hc, hb⟩, hv⟩ := ht
  have hs : skipBlanks (' ' :: (text ++ '\n' :: rest)) = text ++ '\n' :: rest := by
    rw [hc]
    exact skipBlanks_of_not hb
  have hv := hv rest (show _ < (' ' :: (text ++ '\n' :: rest)).length + 1 by simp; omega)
  have ha : assignment? s (name.toList ++ ' ' :: '=' :: ' ' :: (text ++ '\n' :: rest))
      = some (⟨root, s.openPath⟩, rest) := by
    rw [assignment?, hk.key?_entry]
    simp only [Option.bind_eq_bind, Option.bind_some, hs, hv, endLine?_newline, hw]
    rfl
  rw [lines?_of_isKey hk, ha]
  exact h n (by simp at hf; omega)

theorem lines?_header {c : Char} {cs : List Char} (hc : isKeyChar c = true) (n : Nat) :
    lines? (n + 1) s ('[' :: c :: cs)
      = (header? s false (c :: cs)).bind fun r => lines? n r.1 r.2 := by
  obtain ⟨hb, hh, hl, hr, ho⟩ := ne_of_isKeyChar hc
  rw [lines?, skipBlanks_of_not (by decide)]
  split <;> simp_all

/-- A header opens the table of its key. -/
theorem Reads.header {path : List String} {cs : List Char}
    (hc : ∃ d ds, cs = d :: ds ∧ isKeyChar d = true)
    (hk : key? cs = some ((path, name), ']' :: '\n' :: rest)) (hl : rest.length ≤ cs.length)
    (hw : s.root.openTable? path name = some root) (h : Reads ⟨root, path ++ [name]⟩ rest es) :
    Reads s ('[' :: cs) es := by
  intro fuel hf
  obtain ⟨n, rfl⟩ : ∃ n, fuel = n + 1 := ⟨fuel - 1, by omega⟩
  have hh : header? s false cs = some (⟨root, path ++ [name]⟩, rest) := by
    rw [header?, hk]
    simp only [Option.bind_eq_bind, Option.bind_some, endLine?_newline, hw]
    rfl
  obtain ⟨d, ds, rfl, hd⟩ := hc
  rw [lines?_header hd, hh]
  exact h n (by simp at hf hl; omega)

end Line

section Entries

/-- An entry as it is written, with the value that its text stands for; `none` is left out. -/
abbrev WrittenEntry := String × Option (List Char × Value)

/-- The lines of entries. -/
def entryLines (es : List WrittenEntry) : List Char :=
  es.flatMap fun e => match e.2 with
    | none => []
    | some (text, _) => e.1.toList ++ ' ' :: '=' :: ' ' :: (text ++ ['\n'])

/-- The entries that are not left out. -/
def entryValues (es : List WrittenEntry) : Entries :=
  es.filterMap fun e => e.2.map fun w => (e.1, w.2)

/-- Whether entries are read as they were written: their names differ and are keys, and their texts
are read as their values. -/
def Readable (ws : List WrittenEntry) : Prop :=
  (ws.map Prod.fst).Nodup ∧ ∀ e ∈ ws, IsKey e.1 ∧ ∀ w, e.2 = some w → ReadsAs w.1 w.2

theorem readable_of_names {ws : List WrittenEntry} (names : List String)
    (hn : ws.map Prod.fst = names) (h : names.Nodup ∧ ∀ name ∈ names, IsKey name)
    (hr : ∀ e ∈ ws, ∀ w, e.2 = some w → ReadsAs w.1 w.2) : Readable ws := by
  subst hn
  exact ⟨h.1, fun e he => ⟨h.2 e.1 (List.mem_map_of_mem he), hr e he⟩⟩

theorem entryValues_names (ws : List WrittenEntry) :
    ∀ name ∈ (entryValues ws).map Prod.fst, name ∈ ws.map Prod.fst := by
  intro name hn
  obtain ⟨e, he, rfl⟩ := List.mem_map.1 hn
  obtain ⟨w, hw, h⟩ := List.mem_filterMap.1 he
  obtain ⟨v, -, rfl⟩ := Option.map_eq_some_iff.1 h
  exact List.mem_map.2 ⟨w, hw, rfl⟩

section Alter

variable {name : String} {f : Option Value → Option Value}

/-- Entries of other names stay before what is changed. -/
theorem alter?_append {t : Entries} : ∀ {es : Entries}, name ∉ es.map Prod.fst →
    Entries.alter? name f (es ++ t) = (t.alter? name f).map fun t => es ++ t
  | [], _ => by simp
  | (k, u) :: es, h => by
    rw [List.map_cons, List.mem_cons, not_or] at h
    rw [List.cons_append, Entries.alter?, if_neg (Ne.symm h.1), alter?_append h.2, Option.map_map]
    rfl

theorem alter?_of_not_mem {es : Entries} (h : name ∉ es.map Prod.fst) :
    es.alter? name f = (f none).map fun v => es ++ [(name, v)] := by
  have ha := alter?_append (f := f) (t := []) h
  rwa [List.append_nil, Entries.alter?, Option.map_map] at ha

theorem alter?_last {es : Entries} {v : Value} (h : name ∉ es.map Prod.fst) :
    Entries.alter? name f (es ++ [(name, v)]) = (f (some v)).map fun v => es ++ [(name, v)] := by
  rw [alter?_append h, Entries.alter?, if_pos rfl, Option.map_map]
  rfl

end Alter

/-- A path into the last table of a document leads into that table. -/
theorem within?_last {es inner : Entries} {name : String} (h : name ∉ es.map Prod.fst)
    (f : Entries → Option Entries) (path : List String) :
    Entries.within? f (es ++ [(name, .table .header inner)]) (name :: path)
      = (Entries.within? f inner path).map fun inner => es ++ [(name, .table .header inner)] := by
  rw [Entries.within?, alter?_last h, Option.map_map]
  rfl

/-- The lines of a table add their entries to it, if it is open and their names are new.  `within`
puts the entries of the open table into the document. -/
theorem Reads.entries {path : List String} (within : Entries → Entries)
    (hp : ∀ f inner, Entries.within? f (within inner) path = (f inner).map within)
    {rest : List Char} {out : Entries} : ∀ (ws : List WrittenEntry) (inner : Entries),
    (inner.map Prod.fst ++ ws.map Prod.fst).Nodup →
    (∀ e ∈ ws, IsKey e.1 ∧ ∀ w, e.2 = some w → ReadsAs w.1 w.2) →
    Reads ⟨within (inner ++ entryValues ws), path⟩ rest out →
    Reads ⟨within inner, path⟩ (entryLines ws ++ rest) out
  | [], inner, _, _, h => by simpa [entryValues, entryLines] using h
  | (name, none) :: ws, inner, hd, he, h => by
    have hd : (inner.map Prod.fst ++ ws.map Prod.fst).Nodup := by
      refine hd.sublist ?_
      simp
    exact Reads.entries within hp ws inner hd (fun e hm => he e (List.mem_cons_of_mem _ hm)) h
  | (name, some (text, v)) :: ws, inner, hd, he, h => by
    obtain ⟨hk, hv⟩ := he _ List.mem_cons_self
    have hn : name ∉ inner.map Prod.fst := fun hm =>
      (List.nodup_append.1 hd).2.2 name hm name List.mem_cons_self rfl
    have hw : (within inner).within? (fun es => es.addDotted? name v []) path
        = some (within (inner ++ [(name, v)])) := by
      rw [hp]
      simp only [Entries.addDotted?, Entries.add?, alter?_of_not_mem hn, Option.map_some]
    have hd : ((inner ++ [(name, v)]).map Prod.fst ++ ws.map Prod.fst).Nodup := by
      simpa using hd
    have hr := Reads.entries within hp ws _ hd (fun e hm => he e (List.mem_cons_of_mem _ hm))
      (by simpa [entryValues] using h)
    have hl := Reads.entry (s := ⟨within inner, path⟩) hk (hv _ rfl) hw hr
    simpa [entryLines] using hl

variable {es inner out : Entries} {name : String} {path : List String} {ws : List WrittenEntry}
  {rest : List Char}

/-- A header with the lines of its table adds the table to the document. -/
theorem Reads.table (hw : Readable ws) (hk : IsKey name) (hn : name ∉ es.map Prod.fst)
    (h : Reads ⟨es ++ [(name, .table .header (entryValues ws))], [name]⟩ rest out) :
    Reads ⟨es, path⟩ ('[' :: (name.toList ++ ']' :: '\n' :: (entryLines ws ++ rest))) out := by
  have ho : es.openTable? [] name = some (es ++ [(name, .table .header [])]) := by
    rw [Entries.openTable?, Entries.within?, alter?_of_not_mem hn]
    rfl
  refine Reads.header (s := ⟨es, path⟩) (hk.exists_append_eq _) (hk.key?_header _)
    (by simp; omega) ho ?_
  refine Reads.entries (fun inner => es ++ [(name, .table .header inner)]) (fun f inner => ?_) ws []
    hw.1 hw.2 h
  rw [within?_last hn, Entries.within?]

/-- The same below the last table of the document. -/
theorem Reads.tableBelow {below : String} (hw : Readable ws) (hk : IsKey name) (hb : IsKey below)
    (hn : name ∉ es.map Prod.fst) (hi : below ∉ inner.map Prod.fst)
    (h : Reads
      ⟨es ++ [(name, .table .header (inner ++ [(below, .table .header (entryValues ws))]))],
        [name, below]⟩ rest out) :
    Reads ⟨es ++ [(name, .table .header inner)], path⟩
      ('[' :: (name.toList ++ '.' :: (below.toList ++ ']' :: '\n' :: (entryLines ws ++ rest))))
      out := by
  have ho : Entries.openTable? (es ++ [(name, .table .header inner)]) [name] below
      = some (es ++ [(name, .table .header (inner ++ [(below, .table .header [])]))]) := by
    rw [Entries.openTable?, within?_last hn, Entries.within?, alter?_of_not_mem hi]
    rfl
  refine Reads.header (s := ⟨es ++ [(name, .table .header inner)], path⟩) (hk.exists_append_eq _)
    (hk.key?_below hb _) (by simp; omega) ho ?_
  refine Reads.entries
    (fun w => es ++ [(name, Value.table .header (inner ++ [(below, Value.table .header w)]))])
    (fun f w => ?_) ws [] hw.1 hw.2 h
  rw [List.singleton_append, within?_last hn, within?_last hi, Entries.within?, Option.map_map]
  rfl

end Entries

theorem parse?_of_reads {text : String} {out : Entries}
    (hb : text.toList.head? ≠ some byteOrderMark) (h : Reads ⟨[], []⟩ text.toList out) :
    parse? text = some out := by
  simp only [parse?, if_neg hb]
  exact h _ (Nat.lt_succ_self _)

end SignerTrust.Toml
