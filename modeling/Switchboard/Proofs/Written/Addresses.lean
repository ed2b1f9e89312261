import Switchboard.Net.HostName
import Switchboard.Proofs.Written.Numbers

/-!
# Written addresses

The canonical text of an address is read back as that address (`Ipv4.read?_render`,
`Ipv6.read?_render`), and no text of one family is read as one of the other
(`Ipv4.read?_render_v6`).

For the long family the text depends on the first of the longest runs of zero groups.  All that the
proof needs of it is that the groups are what stands before the run, the run, and what stands behind
it (`Ipv6.groups_split`); and that the first two colons together are those of the gap, because the
groups before it are neither empty nor hold a colon (`Ipv6.splitGap_renderGroups`).
-/

namespace Switchboard.Net

open Text

/-! ### Fields -/

/-- A character of some fields with a separator between them is one of the fields', or the
separator. -/
theorem exists_mem_of_mem_intercalate {sep c : Char} {fs : List (List Char)}
    (h : c ∈ [sep].intercalate fs) : c = sep ∨ ∃ f ∈ fs, c ∈ f := by
  induction fs with
  | nil => exact nomatch h
  | cons f fs ih =>
    cases fs with
    | nil => exact .inr ⟨f, List.mem_singleton_self f, by simpa using h⟩
    | cons g fs =>
      rw [List.intercalate_cons_cons, List.append_assoc] at h
      rcases List.mem_append.mp h with hf | hrest
      · exact .inr ⟨f, List.mem_cons_self, hf⟩
      · rcases List.mem_append.mp hrest with hsep | hlater
        · exact .inl (List.mem_singleton.mp hsep)
        · rcases ih hlater with heq | ⟨f', hf', hc⟩
          · exact .inl heq
          · exact .inr ⟨f', List.mem_cons_of_mem f hf', hc⟩

/-- Where every field that is read keeps to some characters, a text that is read in fields keeps to
them and the separator. -/
theorem of_mem_of_mapM_splitOn {α : Type} {read : List Char → Option α} {p : Char → Prop}
    (hread : ∀ f a, read f = some a → ∀ c ∈ f, p c) {sep : Char} {cs : List Char} {as : List α}
    (h : (cs.splitOn sep).mapM read = some as) {c : Char} (hc : c ∈ cs) : c = sep ∨ p c := by
  have hall : ∀ (fs : List (List Char)) (bs : List α), fs.mapM read = some bs →
      ∀ f ∈ fs, ∃ b, read f = some b := by
    intro fs
    induction fs with
    | nil => exact fun _ _ _ hf => nomatch hf
    | cons f fs ih =>
      intro bs hbs
      rw [List.mapM_cons] at hbs
      obtain ⟨b, hb, hbs⟩ := Option.bind_eq_some_iff.mp hbs
      obtain ⟨bs', hbs', -⟩ := Option.bind_eq_some_iff.mp hbs
      exact List.forall_mem_cons.mpr ⟨⟨b, hb⟩, ih bs' hbs'⟩
  have hjoined : [sep].intercalate (cs.splitOn sep) = cs := List.intercalate_splitOn sep
  rw [← hjoined] at hc
  rcases exists_mem_of_mem_intercalate hc with heq | ⟨f, hf, hcf⟩
  · exact .inl heq
  · obtain ⟨a, ha⟩ := hall _ _ h f hf
    exact .inr (hread f a ha c hcf)

/-! ### The short family -/

namespace Ipv4

theorem octet?_decimal (b : UInt8) : octet? (decimal b.toNat) = some b := by
  have hlt : b.toNat < 256 := b.toNat_lt
  have hlength : (decimal b.toNat).length ≤ 3 :=
    (Nat.length_toDigits_le_iff (by decide) (by decide)).mpr (by omega)
  -- A zero stands at the front of the text of zero only.
  have hzero : (decimal b.toNat).head? = some '0' → decimal b.toNat = ['0'] := by
    intro hhead
    rcases Nat.eq_zero_or_pos b.toNat with heq | hpos
    · rw [heq]
      rfl
    · exact absurd hhead (head?_toDigits_ne (by decide) hpos)
  unfold octet?
  rw [if_pos ⟨hlength, hzero⟩, digits?_decimal (by omega), Option.map_some, UInt8.ofNat_toNat]

/-- The text of an address as four fields. -/
theorem render_eq (i : Ipv4) : i.render =
    ['.'].intercalate [decimal i.a.toNat, decimal i.b.toNat, decimal i.c.toNat, decimal i.d.toNat] := by
  simp [render, List.intercalate_cons_cons]

/-- **The text of an address is read back.** -/
theorem read?_render (i : Ipv4) : read? i.render = some i := by
  have hdot : ∀ n, '.' ∉ decimal n := fun _ => not_mem_toDigits (by decide) (by decide) (by decide)
  unfold read?
  rw [render_eq, List.splitOn_intercalate '.' (by simp [hdot]) (by simp)]
  simp [octet?_decimal]

/-- An address is read from decimal digits and dots. -/
theorem of_mem_of_read? {cs : List Char} {i : Ipv4} (h : read? cs = some i) {c : Char}
    (hc : c ∈ cs) : c = '.' ∨ isDigitOf 10 c = true := by
  unfold read? at h
  split at h
  · rename_i hparts
    refine of_mem_of_mapM_splitOn (p := fun c => isDigitOf 10 c = true) (fun f a hf c hc => ?_) hparts hc
    unfold octet? at hf
    split_ifs at hf
    obtain ⟨n, hn, -⟩ := Option.map_eq_some_iff.mp hf
    exact isDigitOf_of_digits? hn hc
  · exact nomatch h

theorem of_mem_render (i : Ipv4) {c : Char} (hc : c ∈ i.render) :
    c = '.' ∨ isDigitOf 10 c = true :=
  of_mem_of_read? i.read?_render hc

/-- What holds a delimiter other than a dot is no address. -/
theorem read?_eq_none {cs : List Char} {d : Char} (hd : Delimiter d) (hne : d ≠ '.') (h : d ∈ cs) :
    read? cs = none := by
  cases hread : read? cs with
  | none => rfl
  | some i =>
    rcases of_mem_of_read? hread h with heq | hdigit
    · exact absurd heq hne
    · exact absurd rfl (ne_of_isDigitOf (isDigitOf_mono (by decide) hdigit) hd)

end Ipv4

/-! ### The long family -/

namespace Ipv6

/-- A character that the text of an address is made of. -/
def Symbol (c : Char) : Prop :=
  c = '.' ∨ c = ':' ∨ isDigitOf 16 c = true

theorem ne_of_symbol {c d : Char} (hc : Symbol c) (hd : Delimiter d) (hdot : d ≠ '.')
    (hcolon : d ≠ ':') : c ≠ d := by
  rintro rfl
  rcases hc with heq | heq | hdigit
  · exact hdot heq
  · exact hcolon heq
  · exact ne_of_isDigitOf hdigit hd rfl

/-! #### Groups -/

theorem group?_renderGroup (g : UInt16) : group? (renderGroup g) = some g := by
  have hlt : g.toNat < 65536 := g.toNat_lt
  have hlength : (renderGroup g).length ≤ 4 :=
    (Nat.length_toDigits_le_iff (by decide) (by decide)).mpr (by omega)
  unfold group?
  rw [if_pos hlength, renderGroup, digits?_toDigits (by decide) (by decide) (by omega),
    Option.map_some, UInt16.ofNat_toNat]

theorem not_mem_renderGroup (g : UInt16) {d : Char} (hd : Delimiter d) : d ∉ renderGroup g :=
  not_mem_toDigits (by decide) (by decide) hd

theorem renderGroup_ne_nil (g : UInt16) : renderGroup g ≠ [] :=
  Nat.toDigits_ne_nil

theorem fields?_map_renderGroup (short : Bool) (gs : List UInt16) :
    fields? short (gs.map renderGroup) = some gs := by
  induction gs with
  | nil => rfl
  | cons g gs ih =>
    cases gs with
    | nil => simp [fields?, group?_renderGroup]
    | cons g' gs =>
      rw [List.map_cons] at ih
      simp [fields?, group?_renderGroup, ih]

theorem renderGroups_cons_cons (g g' : UInt16) (gs : List UInt16) :
    renderGroups (g :: g' :: gs) = renderGroup g ++ ':' :: renderGroups (g' :: gs) := by
  simp [renderGroups, List.intercalate_cons_cons]

/-- The text of some groups begins with a digit. -/
theorem exists_renderGroups_cons (g : UInt16) (gs : List UInt16) :
    ∃ c cs, renderGroups (g :: gs) = c :: cs ∧ c ≠ ':' := by
  obtain ⟨c, cs, hg⟩ := List.exists_cons_of_ne_nil (renderGroup_ne_nil g)
  have hc : c ≠ ':' := by
    rintro rfl
    exact not_mem_renderGroup g (by decide) (hg ▸ List.mem_cons_self)
  cases gs with
  | nil => exact ⟨c, cs, by simpa [renderGroups] using hg, hc⟩
  | cons g' gs => exact ⟨c, _, by rw [renderGroups_cons_cons, hg, List.cons_append], hc⟩

theorem renderGroups_ne_nil {gs : List UInt16} (h : gs ≠ []) : renderGroups gs ≠ [] := by
  obtain ⟨g, gs, rfl⟩ := List.exists_cons_of_ne_nil h
  obtain ⟨c, cs, heq, -⟩ := exists_renderGroups_cons g gs
  rw [heq]
  exact List.cons_ne_nil c cs

/-- **Groups are read back from their text.** -/
theorem groups?_renderGroups (short : Bool) (gs : List UInt16) :
    groups? short (renderGroups gs) = some gs := by
  unfold groups?
  by_cases hgs : gs = []
  · rw [hgs]
    rfl
  · have hcolon : ∀ f ∈ gs.map renderGroup, ':' ∉ f := by
      intro f hf
      obtain ⟨g, -, rfl⟩ := List.mem_map.mp hf
      exact not_mem_renderGroup g (by decide)
    rw [if_neg (renderGroups_ne_nil hgs), renderGroups,
      List.splitOn_intercalate ':' hcolon (by simpa using hgs), fields?_map_renderGroup]

/-! #### Gaps -/

/-- No gap begins in a text without colons. -/
theorem splitGap_append {f : List Char} (h : ':' ∉ f) (cs : List Char) :
    splitGap (f ++ cs) = (splitGap cs).map fun (p, q) => (f ++ p, q) := by
  induction f with
  | nil => simp
  | cons c f ih =>
    obtain ⟨hc, hf⟩ := List.ne_and_not_mem_of_not_mem_cons h
    rw [List.cons_append, splitGap.eq_2 _ _ fun _ heq _ => hc heq.symm, ih hf, Option.map_map]
    rfl

/-- A colon before something else is no gap. -/
theorem splitGap_colon {c : Char} (h : c ≠ ':') (cs : List Char) :
    splitGap (':' :: c :: cs) = (splitGap (c :: cs)).map fun (p, q) => (':' :: p, q) :=
  splitGap.eq_2 _ _ fun _ _ heq => h (List.cons.inj heq).1

/-- **No gap is in the text of groups,** so the first one is what follows them. -/
theorem splitGap_renderGroups (gs : List UInt16) (cs : List Char) :
    splitGap (renderGroups gs ++ cs) =
      (splitGap cs).map fun (p, q) => (renderGroups gs ++ p, q) := by
  induction gs with
  | nil => simp [renderGroups]
  | cons g gs ih =>
    have hfirst : ':' ∉ renderGroup g := not_mem_renderGroup g (by decide)
    cases gs with
    | nil =>
      simp only [renderGroups, List.map_cons, List.map_nil, List.intercalate_singleton]
      exact splitGap_append hfirst cs
    | cons g' gs =>
      obtain ⟨c, rest, heq, hc⟩ := exists_renderGroups_cons g' gs
      have hcolon : splitGap (':' :: renderGroups (g' :: gs) ++ cs) =
          (splitGap (renderGroups (g' :: gs) ++ cs)).map fun (p, q) => (':' :: p, q) := by
        rw [heq]
        exact splitGap_colon hc (rest ++ cs)
      rw [renderGroups_cons_cons, List.append_assoc, splitGap_append hfirst, hcolon, ih,
        Option.map_map, Option.map_map]
      simp [Function.comp_def]

/-! #### The longest run of zeros -/

/-- Some zero groups stand ahead. -/
theorem eq_zerosAhead (gs : List UInt16) :
    gs = List.replicate (zerosAhead gs) 0 ++ gs.drop (zerosAhead gs) := by
  induction gs with
  | nil => rfl
  | cons g gs ih =>
    by_cases hg : g = 0
    · subst hg
      have hcount : zerosAhead (0 :: gs) = zerosAhead gs + 1 := by simp [zerosAhead]
      rw [hcount, List.replicate_succ, List.cons_append, List.drop_succ_cons, ← ih]
    · have hcount : zerosAhead (g :: gs) = 0 := by simp [zerosAhead, hg]
      rw [hcount]
      rfl

/-- **The groups are what stands before the longest run of zeros, the run, and what stands
behind it.** -/
theorem groups_split (gs : List UInt16) :
    gs = gs.take (longestZeros gs).1 ++ List.replicate (longestZeros gs).2 0 ++
      gs.drop ((longestZeros gs).1 + (longestZeros gs).2) := by
  induction gs with
  | nil => rfl
  | cons g gs ih =>
    unfold longestZeros
    dsimp only
    split_ifs with hle
    · simpa using eq_zerosAhead (g :: gs)
    · rw [List.take_succ_cons, Nat.add_right_comm, List.drop_succ_cons, List.cons_append,
        List.cons_append, ← ih]

/-! #### Reading what was written -/

theorem ofList?_toList (i : Ipv6) : ofList? i.toList = some i := by
  obtain ⟨⟨⟨gs⟩, hgs⟩⟩ := i
  exact dif_pos hgs

theorem ofList?_eq {i : Ipv6} {gs : List UInt16} (h : gs = i.toList) : ofList? gs = some i :=
  h ▸ ofList?_toList i

/-- The groups that an embedded short address fills are those that it was taken from. -/
theorem groupsOf_mapped (g h : UInt16) :
    groupsOf ⟨.ofNat (g.toNat / 256), .ofNat g.toNat, .ofNat (h.toNat / 256), .ofNat h.toNat⟩ =
      [g, h] := by
  have hpair : ∀ k : UInt16, UInt16.ofNat ((UInt8.ofNat (k.toNat / 256)).toNat * 256 +
      (UInt8.ofNat k.toNat).toNat) = k := by
    intro k
    have hlt : k.toNat < 65536 := k.toNat_lt
    have hhigh : (UInt8.ofNat (k.toNat / 256)).toNat = k.toNat / 256 := by
      rw [UInt8.toNat_ofNat']
      omega
    have hlow : (UInt8.ofNat k.toNat).toNat = k.toNat % 256 := UInt8.toNat_ofNat'
    rw [hhigh, hlow, show k.toNat / 256 * 256 + k.toNat % 256 = k.toNat by omega,
      UInt16.ofNat_toNat]
  unfold groupsOf
  rw [hpair g, hpair h]

/-- A group is read from hexadecimal digits. -/
theorem isDigitOf_of_group? {cs : List Char} {g : UInt16} (h : group? cs = some g) {c : Char}
    (hc : c ∈ cs) : isDigitOf 16 c = true := by
  unfold group? at h
  split_ifs at h
  obtain ⟨n, hn, -⟩ := Option.map_eq_some_iff.mp h
  exact isDigitOf_of_digits? hn hc

/-- A short address is no group. -/
theorem group?_render (short : Ipv4) : group? short.render = none := by
  have hdot : '.' ∈ short.render := by simp [Ipv4.render]
  cases h : group? short.render with
  | none => rfl
  | some g => exact absurd rfl (ne_of_isDigitOf (isDigitOf_of_group? h hdot) (by decide))

/-- An address that embeds a short one is read back. -/
theorem read?_mapped {i : Ipv6} {short : Ipv4} (h : i.mapped? = some short) :
    read? ("::ffff:".toList ++ short.render) = some i := by
  unfold mapped? at h
  split at h
  · rename_i g g' hgroups
    have hcolon : ':' ∉ short.render := fun hc => by
      rcases short.of_mem_render hc with heq | hdigit
      · exact absurd heq (by decide)
      · exact ne_of_isDigitOf (isDigitOf_mono (by decide) hdigit) (d := ':') (by decide) rfl
    have hfields : (['f', 'f', 'f', 'f'] ++ ':' :: short.render).splitOn ':' =
        [['f', 'f', 'f', 'f'], short.render] := by
      rw [List.splitOn_append_cons_self_of_not_mem (by decide), List.splitOn_eq_singleton hcolon]
    have hffff : group? ['f', 'f', 'f', 'f'] = some 0xFFFF := by decide
    have hfill : groupsOf short = [g, g'] := by
      rw [← Option.some.inj h]
      exact groupsOf_mapped g g'
    have hread : groups? true (['f', 'f', 'f', 'f'] ++ ':' :: short.render) = some [0xFFFF, g, g'] := by
      unfold groups?
      rw [if_neg (by simp), hfields]
      simp [fields?, hffff, group?_render, short.read?_render, hfill]
    have hgap : splitGap ("::ffff:".toList ++ short.render) =
        some ([], ['f', 'f', 'f', 'f'] ++ ':' :: short.render) := rfl
    unfold read?
    rw [hgap]
    dsimp only
    rw [hread]
    exact ofList?_eq hgroups.symm
  · exact nomatch h

/-- **The text of an address is read back.** -/
theorem read?_render (i : Ipv6) : read? i.render = some i := by
  unfold render
  split
  · rename_i short hshort
    exact read?_mapped hshort
  · dsimp only
    have hsplit := groups_split i.toList
    have hlength : i.toList.length = 8 := i.groups.length_toList
    generalize longestZeros i.toList = run at hsplit
    obtain ⟨place, n⟩ := run
    dsimp only at hsplit ⊢
    split_ifs with hn
    · have hnone : splitGap (renderGroups i.toList) = none := by
        simpa [splitGap] using splitGap_renderGroups i.toList []
      have hne : i.toList ≠ [] := List.ne_nil_of_length_pos (by omega)
      unfold read?
      rw [hnone]
      dsimp only
      rw [if_neg (renderGroups_ne_nil hne), groups?_renderGroups, Option.bind_some, ofList?_toList]
    · generalize hbefore : i.toList.take place = before at hsplit
      generalize hafter : i.toList.drop (place + n) = after at hsplit
      have hgap : splitGap (renderGroups before ++ "::".toList ++ renderGroups after) =
          some (renderGroups before, renderGroups after) := by
        rw [List.append_assoc, splitGap_renderGroups]
        simp [splitGap]
      have hcount : before.length + n + after.length = 8 := by
        rw [← hlength, hsplit, List.length_append, List.length_append, List.length_replicate]
      unfold read?
      rw [hgap]
      dsimp only
      rw [groups?_renderGroups, groups?_renderGroups]
      dsimp only [Option.bind_eq_bind, Option.bind_some]
      rw [if_pos (by omega), show 8 - before.length - after.length = n by omega]
      exact ofList?_eq hsplit.symm

/-! #### What an address is read from -/

theorem splitGap_eq_some {cs p q : List Char} (h : splitGap cs = some (p, q)) :
    cs = p ++ ':' :: ':' :: q := by
  induction cs using splitGap.induct generalizing p q with
  | case1 cs =>
    obtain ⟨rfl, rfl⟩ := Prod.mk.inj (Option.some.inj h)
    rfl
  | case2 c cs hno ih =>
    rw [splitGap.eq_2 c cs hno] at h
    obtain ⟨⟨p', q'⟩, hrest, heq⟩ := Option.map_eq_some_iff.mp h
    obtain ⟨rfl, rfl⟩ := Prod.mk.inj heq
    rw [ih hrest]
    rfl
  | case3 => exact nomatch h

theorem symbol_of_fields? {short : Bool} {fs : List (List Char)} {gs : List UInt16}
    (h : fields? short fs = some gs) : ∀ f ∈ fs, ∀ c ∈ f, Symbol c := by
  have hgroup : ∀ f g, group? f = some g → ∀ c ∈ f, Symbol c := fun f g hg c hc =>
    .inr (.inr (isDigitOf_of_group? hg hc))
  induction fs generalizing gs with
  | nil => exact fun _ hf => nomatch hf
  | cons f fs ih =>
    cases fs with
    | nil =>
      rw [fields?] at h
      split at h
      · rename_i g hg
        exact List.forall_mem_singleton.mpr (hgroup f g hg)
      · -- The last field may be a short address.
        split_ifs at h
        obtain ⟨i, hi, -⟩ := Option.map_eq_some_iff.mp h
        refine List.forall_mem_singleton.mpr fun c hc => ?_
        rcases Ipv4.of_mem_of_read? hi hc with heq | hdigit
        · exact .inl heq
        · exact .inr (.inr (isDigitOf_mono (by decide) hdigit))
    | cons f' fs =>
      rw [fields?] at h
      obtain ⟨first, hfirst, h⟩ := Option.bind_eq_some_iff.mp h
      obtain ⟨rest, hrest, -⟩ := Option.bind_eq_some_iff.mp h
      exact List.forall_mem_cons.mpr ⟨hgroup f first hfirst, ih hrest⟩

theorem symbol_of_groups? {short : Bool} {cs : List Char} {gs : List UInt16}
    (h : groups? short cs = some gs) : ∀ c ∈ cs, Symbol c := by
  unfold groups? at h
  split_ifs at h with hcs
  · exact fun c hc => nomatch hcs ▸ hc
  · intro c hc
    have hjoined : [':'].intercalate (cs.splitOn ':') = cs := List.intercalate_splitOn ':'
    rw [← hjoined] at hc
    rcases exists_mem_of_mem_intercalate hc with heq | ⟨f, hf, hcf⟩
    · exact .inr (.inl heq)
    · exact symbol_of_fields? h f hf c hcf

/-- **An address is read from hexadecimal digits, colons and dots.** -/
theorem symbol_of_read? {cs : List Char} {i : Ipv6} (h : read? cs = some i) :
    ∀ c ∈ cs, Symbol c := by
  unfold read? at h
  split at h
  · split_ifs at h
    obtain ⟨gs, hgs, -⟩ := Option.bind_eq_some_iff.mp h
    exact symbol_of_groups? hgs
  · rename_i before after hgap
    obtain ⟨head, hhead, h⟩ := Option.bind_eq_some_iff.mp h
    obtain ⟨tail, htail, -⟩ := Option.bind_eq_some_iff.mp h
    rw [splitGap_eq_some hgap]
    intro c hc
    rcases List.mem_append.mp hc with hbefore | hrest
    · exact symbol_of_groups? hhead c hbefore
    · rcases List.mem_cons.mp hrest with rfl | hrest
      · exact .inr (.inl rfl)
      · rcases List.mem_cons.mp hrest with rfl | hafter
        · exact .inr (.inl rfl)
        · exact symbol_of_groups? htail c hafter

theorem symbol_of_mem_render (i : Ipv6) : ∀ c ∈ i.render, Symbol c :=
  symbol_of_read? i.read?_render

/-- What holds a delimiter other than a dot or a colon is no address. -/
theorem read?_eq_none {cs : List Char} {d : Char} (hd : Delimiter d) (hdot : d ≠ '.')
    (hcolon : d ≠ ':') (h : d ∈ cs) : read? cs = none := by
  cases hread : read? cs with
  | none => rfl
  | some i => exact absurd rfl (ne_of_symbol (symbol_of_read? hread d h) hd hdot hcolon)

/-- There is a colon in the text of every address. -/
theorem colon_mem_render (i : Ipv6) : ':' ∈ i.render := by
  unfold render
  split
  · simp
  · dsimp only
    split_ifs
    · have hlength : i.toList.length = 8 := i.groups.length_toList
      match hgs : i.toList with
      | [] | [_] => simp [hgs] at hlength
      | g :: g' :: gs =>
        rw [renderGroups_cons_cons]
        simp
    · simp

end Ipv6

/-- **No text of the long family is read as an address of the short one.** -/
theorem Ipv4.read?_render_v6 (i : Ipv6) : Ipv4.read? i.render = none :=
  Ipv4.read?_eq_none (d := ':') (by decide) (by decide) i.colon_mem_render

end Switchboard.Net
