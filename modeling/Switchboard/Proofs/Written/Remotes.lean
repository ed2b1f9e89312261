import Switchboard.Proofs.Written.Addresses
import Switchboard.Remote

/-!
# Written remotes

The text of a remote that was read is read as the same remote again, so two remotes that were read
are equal exactly when they have the same text (`Remote.read_render`).

A remote that was read is an endpoint or a mask that leaves its host or its port open
(`Remote.leavesOpen_of_read`), and every such remote is read back from its text
(`Remote.read_render_of_leavesOpen`).  The text is cut at its last colon, which is the one before the
port because no colon stands in a port (`Net.Endpoint.cutLast?_append`).  The host is an address of
either family; one with a scope is neither, and it is not one of the forms in one to four numbers
either, because of the percent sign in it (`Net.HostName.endpoint?_v6`).
-/

namespace Switchboard

open Net Text

namespace Net

/-! ### The last colon -/

/-- **A text is cut at the last of the characters it is to be cut at.** -/
theorem Endpoint.cutLast?_append {c : Char} (front : List Char) {tail : List Char} (h : c ∉ tail) :
    cutLast? c (front ++ c :: tail) = some (front, tail) := by
  have hpass : ∀ d ∈ tail.reverse, (d != c) = true := by
    intro d hd
    rw [bne_iff_ne]
    rintro rfl
    exact h (List.mem_reverse.mp hd)
  have hreverse : (front ++ c :: tail).reverse = tail.reverse ++ c :: front.reverse := by simp
  unfold cutLast?
  rw [hreverse, List.dropWhile_append_of_pos hpass, List.takeWhile_append_of_pos hpass]
  simp

/-! ### Hosts -/

namespace HostName

theorem endpoint?_v4 (i : Ipv4) (port : UInt16) : endpoint? i.render port = some (.v4 i port) := by
  unfold endpoint?
  rw [i.read?_render]

/-- A part of an address in one to four numbers has digits and the mark of its notation only. -/
theorem of_mem_of_part? {cs : List Char} {n : Nat} (h : part? cs = some n) {c : Char}
    (hc : c ∈ cs) : c = 'x' ∨ c = 'X' ∨ isDigitOf 16 c = true := by
  have hdigit : ∀ {radix max : Nat} {ds : List Char}, radix ≤ 16 → digits? radix max ds = some n →
      c ∈ ds → c = 'x' ∨ c = 'X' ∨ isDigitOf 16 c = true := fun hle hds hc =>
    .inr (.inr (isDigitOf_mono hle (isDigitOf_of_digits? hds hc)))
  unfold part? at h
  split at h
  · rename_i d cs
    rcases List.mem_cons.mp hc with rfl | hc
    · exact .inr (.inr (by decide))
    · split_ifs at h with hx
      · rcases List.mem_cons.mp hc with rfl | hc
        · exact hx.imp_right .inl
        · exact hdigit (by decide) h hc
      · exact hdigit (by decide) h hc
  · exact hdigit (by decide) h hc

/-- What holds a percent sign is no address in one to four numbers. -/
theorem numeric?_eq_none {cs : List Char} (h : '%' ∈ cs) : numeric? cs = none := by
  unfold numeric?
  cases hparts : (cs.splitOn '.').mapM part? with
  | none => rfl
  | some parts =>
    have hmem := of_mem_of_mapM_splitOn (p := fun c => c = 'x' ∨ c = 'X' ∨ isDigitOf 16 c = true)
      (fun _ _ hf _ hc => of_mem_of_part? hf hc) hparts h
    exact absurd hmem (by decide)

/-- An address is read from in front of the scope. -/
theorem scoped?_render (i : Ipv6) (scope : UInt32) :
    scoped? (i.render ++ '%' :: decimal scope.toNat) = some (i, scope) := by
  have hlt : scope.toNat < 4294967296 := scope.toNat_lt
  have hpass : ∀ c ∈ i.render, (c != '%') = true := fun c hc =>
    bne_iff_ne.mpr (Ipv6.ne_of_symbol (i.symbol_of_mem_render c hc) (by decide) (by decide) (by decide))
  unfold scoped?
  rw [List.dropWhile_append_of_pos hpass, List.takeWhile_append_of_pos hpass,
    List.dropWhile_cons_of_neg (by decide), List.takeWhile_cons_of_neg (by decide), List.append_nil]
  simp [i.read?_render, digits?_decimal (show scope.toNat ≤ 0xFFFFFFFF by omega)]

/-- **An address of the long family is read with its scope.** -/
theorem endpoint?_v6 (i : Ipv6) (port : UInt16) (scope : UInt32) :
    endpoint? (i.render ++ Endpoint.renderScope scope) port = some (.v6 i port scope) := by
  unfold endpoint? Endpoint.renderScope
  by_cases hscope : scope = 0
  · rw [if_pos hscope, List.append_nil, Ipv4.read?_render_v6, i.read?_render, hscope]
  · have hmem : '%' ∈ i.render ++ '%' :: decimal scope.toNat := by simp
    rw [if_neg hscope, Ipv4.read?_eq_none (by decide) (by decide) hmem,
      Ipv6.read?_eq_none (by decide) (by decide) (by decide) hmem, numeric?_eq_none hmem,
      scoped?_render]

end HostName

end Net

namespace Remote

/-- **A mask leaves its host or its port open.** -/
def LeavesOpen (r : Remote) : Prop :=
  r.isMask = true → r.host? = none ∨ r.port? = none

theorem leavesOpen_endpoint (e : Endpoint) : (endpoint e).LeavesOpen :=
  fun h => absurd h Bool.false_ne_true

/-- What is read is an endpoint, or leaves something open. -/
theorem leavesOpen_of_read {text : String} {r : Remote} (h : read text = .ok r) : r.LeavesOpen := by
  unfold read at h
  split at h
  · rename_i host portText _
    unfold ofParts at h
    split at h
    · rename_i hread
      obtain rfl := Except.ok.inj h
      obtain ⟨p, -, hread⟩ := Option.bind_eq_some_iff.mp hread
      split_ifs at hread
      · obtain rfl := Option.some.inj hread
        exact fun _ => .inl rfl
      · split at hread
        · obtain ⟨e, -, heq⟩ := Option.bind_eq_some_iff.mp hread
          obtain rfl := Option.some.inj heq
          exact leavesOpen_endpoint e
        · obtain ⟨e, -, heq⟩ := Option.bind_eq_some_iff.mp hread
          obtain rfl := Option.some.inj heq
          exact fun _ => .inr rfl
    · exact nomatch h
  · exact nomatch h

/-! ### Reading a text in two parts -/

theorem unbracket_brackets (inner : List Char) : unbracket ('[' :: inner ++ [']']) = inner := by
  simp [unbracket]

theorem unbracket_eq_self {host : List Char} (h : '[' ∉ host) : unbracket host = host := by
  unfold unbracket
  split
  · exact absurd List.mem_cons_self h
  · rfl

theorem port_renderPort (p : Option UInt16) : port (renderPort p) = some p := by
  cases p with
  | none => rfl
  | some p =>
    have hlt : p.toNat < 65536 := p.toNat_lt
    have hstar : decimal p.toNat ≠ ['*'] := by
      intro heq
      have hmem : '*' ∈ decimal p.toNat := heq ▸ List.mem_singleton_self '*'
      exact not_mem_toDigits (by decide) (by decide) (by decide) hmem
    unfold port renderPort
    dsimp only
    rw [if_neg hstar, natural?_decimal (by omega), Option.map_some, UInt16.ofNat_toNat]

/-- No blank and no colon stands in the text of a port. -/
theorem of_mem_renderPort {p : Option UInt16} {c : Char} (hc : c ∈ renderPort p) :
    isBlank c = false ∧ c ≠ ':' := by
  cases p with
  | none =>
    obtain rfl := List.mem_singleton.mp hc
    exact ⟨by decide, by decide⟩
  | some p =>
    have hdigit := isDigitOf_mono (show 10 ≤ 16 by decide) (isDigitOf_of_mem_decimal hc)
    exact ⟨not_isBlank_of_isDigitOf hdigit, ne_of_isDigitOf hdigit (by decide)⟩

/-- **A host and a port without blanks are read as they stand,** the host without its brackets. -/
theorem read_parts {host : List Char} (hhost : ∀ c ∈ host, isBlank c = false) (p : Option UInt16)
    {r : Remote} (h : ofTrimmed? (unbracket host) (renderPort p) = some r) :
    read (String.ofList (host ++ ':' :: renderPort p)) = .ok r := by
  have hport : ∀ c ∈ renderPort p, isBlank c = false := fun c hc => (of_mem_renderPort hc).1
  have hcolon : ':' ∉ renderPort p := fun hc => (of_mem_renderPort hc).2 rfl
  have hinner : ∀ c ∈ unbracket host, isBlank c = false := by
    intro c hc
    unfold unbracket at hc
    split at hc
    · split_ifs at hc
      · exact hhost c (List.mem_cons_of_mem _ (List.dropLast_subset _ hc))
      · exact hhost c hc
    · exact hhost c hc
  have hall : ∀ c ∈ host ++ ':' :: renderPort p, isBlank c = false := by
    intro c hc
    rcases List.mem_append.mp hc with hc | hc
    · exact hhost c hc
    · rcases List.mem_cons.mp hc with rfl | hc
      · decide
      · exact hport c hc
  unfold read
  rw [String.toList_ofList, trim_eq_self hall, Endpoint.cutLast?_append _ hcolon]
  dsimp only
  unfold ofParts
  rw [trim_eq_self hinner, trim_eq_self hport, h]

/-- A host that is no star is read as the endpoint it stands for, or as the address of it where the
port is open. -/
theorem read_host {host : List Char} (hhost : ∀ c ∈ host, isBlank c = false)
    (hstar : '*' ∉ unbracket host) {p : Option UInt16} {e : Endpoint}
    (h : HostName.endpoint? (unbracket host) (p.getD 0) = some e) :
    read (String.ofList (host ++ ':' :: renderPort p)) =
      .ok (p.elim (.mask (some e.address) none) fun _ => .endpoint e) := by
  have hne : unbracket host ≠ ['*'] := fun heq => hstar (heq ▸ List.mem_singleton_self '*')
  refine read_parts hhost p ?_
  unfold ofTrimmed?
  rw [port_renderPort, Option.bind_eq_bind, Option.bind_some, if_neg hne]
  cases p with
  | none =>
    dsimp only
    rw [show (0 : UInt16) = (none : Option UInt16).getD 0 from rfl, h]
    rfl
  | some p =>
    rw [Option.getD_some] at h
    dsimp only
    rw [h]
    rfl

/-! ### Texts of remotes -/

theorem read_star (p : Option UInt16) :
    read (String.ofList (['*'] ++ ':' :: renderPort p)) = .ok (.mask none p) := by
  refine read_parts (List.forall_mem_singleton.mpr (by decide)) p ?_
  unfold ofTrimmed?
  rw [port_renderPort]
  rfl

theorem read_v4 (i : Ipv4) (p : Option UInt16) :
    read (String.ofList (i.render ++ ':' :: renderPort p)) =
      .ok (p.elim (.mask (some (.v4 i)) none) fun p => .endpoint (.v4 i p)) := by
  have hchar : ∀ c ∈ i.render, c = '.' ∨ isDigitOf 16 c = true := fun c hc =>
    (i.of_mem_render hc).imp_right (isDigitOf_mono (by decide))
  have hblank : ∀ c ∈ i.render, isBlank c = false := by
    intro c hc
    rcases hchar c hc with rfl | hdigit
    · decide
    · exact not_isBlank_of_isDigitOf hdigit
  have hno : ∀ d, Delimiter d → d ≠ '.' → d ∉ i.render := by
    intro d hd hne hmem
    rcases hchar d hmem with heq | hdigit
    · exact hne heq
    · exact ne_of_isDigitOf hdigit hd rfl
  have hself : unbracket i.render = i.render :=
    unbracket_eq_self (hno '[' (by decide) (by decide))
  have hread := read_host (p := p) (e := .v4 i (p.getD 0)) hblank
    (hself.symm ▸ hno '*' (by decide) (by decide)) (hself.symm ▸ HostName.endpoint?_v4 i _)
  cases p <;> exact hread

/-- A scope is made of digits behind a percent sign. -/
theorem of_mem_renderScope {scope : UInt32} {c : Char} (hc : c ∈ Endpoint.renderScope scope) :
    c = '%' ∨ isDigitOf 16 c = true := by
  unfold Endpoint.renderScope at hc
  split_ifs at hc
  · exact nomatch hc
  · exact (List.mem_cons.mp hc).imp_right fun hc =>
      isDigitOf_mono (by decide) (isDigitOf_of_mem_decimal hc)

theorem read_v6 (i : Ipv6) (scope : UInt32) (p : Option UInt16) :
    read (String.ofList
      ('[' :: (i.render ++ Endpoint.renderScope scope) ++ [']'] ++ ':' :: renderPort p)) =
        .ok (p.elim (.mask (some (.v6 i)) none) fun p => .endpoint (.v6 i p scope)) := by
  generalize hinner : i.render ++ Endpoint.renderScope scope = inner
  have hchar : ∀ c ∈ inner, (c = '.' ∨ c = ':' ∨ c = '%') ∨ isDigitOf 16 c = true := by
    intro c hc
    rw [← hinner] at hc
    rcases List.mem_append.mp hc with hc | hc
    · rcases i.symbol_of_mem_render c hc with h | h | h <;> simp [h]
    · rcases of_mem_renderScope hc with h | h <;> simp [h]
  have hblank : ∀ c ∈ '[' :: inner ++ [']'], isBlank c = false := by
    intro c hc
    rw [List.cons_append, List.mem_cons, List.mem_append, List.mem_singleton] at hc
    rcases hc with rfl | hc | rfl
    · decide
    · rcases hchar c hc with (rfl | rfl | rfl) | hdigit
      · decide
      · decide
      · decide
      · exact not_isBlank_of_isDigitOf hdigit
    · decide
  have hstar : '*' ∉ inner := by
    intro hmem
    rcases hchar '*' hmem with (h | h | h) | h
    · exact absurd h (by decide)
    · exact absurd h (by decide)
    · exact absurd h (by decide)
    · exact absurd h (by decide)
  have hself := unbracket_brackets inner
  have hread := read_host (p := p) (e := .v6 i (p.getD 0) scope) hblank (hself.symm ▸ hstar)
    (hself.symm ▸ hinner ▸ HostName.endpoint?_v6 i _ scope)
  cases p <;> exact hread

/-- **A remote is read back from its text,** unless it is a mask that leaves nothing open. -/
theorem read_render_of_leavesOpen {r : Remote} (hr : r.LeavesOpen) : read r.render = .ok r := by
  cases r with
  | endpoint e =>
    cases e with
    | v4 i port => exact read_v4 i (some port)
    | v6 i port scope => exact read_v6 i scope (some port)
  | mask host port =>
    cases host with
    | none => exact read_star port
    | some host =>
      obtain rfl : port = none := (hr rfl).resolve_left nofun
      cases host with
      | v4 i => exact read_v4 i none
      | v6 i =>
        have hread := read_v6 i 0 none
        rw [show Endpoint.renderScope 0 = [] from rfl, List.append_nil] at hread
        exact hread

/-- **A remote that was read is read back from its text.**  So two remotes that were read are the
same exactly when they have the same text. -/
theorem read_render {text : String} {r : Remote} (h : read text = .ok r) :
    read r.render = .ok r ∧
      ∀ text' r', read text' = .ok r' → (r = r' ↔ r.render = r'.render) := by
  have hback := read_render_of_leavesOpen (leavesOpen_of_read h)
  refine ⟨hback, fun text' r' h' => ⟨fun heq => heq ▸ rfl, fun heq => ?_⟩⟩
  have hback' := read_render_of_leavesOpen (leavesOpen_of_read h')
  rw [← heq, hback] at hback'
  exact Except.ok.inj hback'

/-- An address of one link alone. -/
def linkLocal : Ipv6 :=
  ⟨#v[0xFE80, 0, 0, 0, 0, 0, 0, 1]⟩

/-- A remote with a scope is read back from its text, which is not that of the remote without. -/
theorem read_render_linkLocal :
    read " [FE80:0::1%3 ]: +080 " = .ok (.endpoint (.v6 linkLocal 80 3)) ∧
      read (render (.endpoint (.v6 linkLocal 80 3))) = .ok (.endpoint (.v6 linkLocal 80 3)) ∧
      read "fe80::1:80" = .ok (.endpoint (.v6 linkLocal 80 0)) ∧
      render (.endpoint (.v6 linkLocal 80 3)) ≠ render (.endpoint (.v6 linkLocal 80 0)) := by
  have hread : read " [FE80:0::1%3 ]: +080 " = .ok (.endpoint (.v6 linkLocal 80 3)) := rfl
  have hplain : read "fe80::1:80" = .ok (.endpoint (.v6 linkLocal 80 0)) := rfl
  obtain ⟨hback, hsame⟩ := read_render hread
  exact ⟨hread, hback, hplain, fun heq => absurd ((hsame _ _ hplain).mpr heq) (by decide)⟩

end Remote

end Switchboard
