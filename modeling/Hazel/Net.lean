import Hazel.Lib.Reader

/-!
# `std::net`

IP addresses, socket addresses, and the parser of their texts that the standard
library shares between their `FromStr` implementations.

## Main results

- `SocketAddr.fromStr_append_port`: the hosts that may stand before `:port`
-/

namespace Hazel.Net

open Readers Reader

/-- `Ipv4Addr`, by its octets. -/
structure Ipv4Addr where
  a : UInt8
  b : UInt8
  c : UInt8
  d : UInt8
  deriving DecidableEq, Repr

/-- `Ipv6Addr`, by its groups. -/
structure Ipv6Addr where
  groups : Vector UInt16 8
  deriving DecidableEq, Repr

inductive IpAddr where
  | v4 (ip : Ipv4Addr)
  | v6 (ip : Ipv6Addr)
  deriving DecidableEq, Repr

inductive SocketAddr where
  | v4 (ip : Ipv4Addr) (port : UInt16)
  | v6 (ip : Ipv6Addr) (port : UInt16) (flowinfo scopeId : UInt32)
  deriving DecidableEq, Repr

def SocketAddr.new (ip : IpAddr) (port : UInt16) : SocketAddr :=
  match ip with
  | .v4 ip => .v4 ip port
  | .v6 ip => .v6 ip port 0 0

/-- `char::to_digit`. -/
def toDigit (radix : Nat) (c : Char) : Option Nat :=
  let digit :=
    if c.isDigit then c.toNat - '0'.toNat
    else if c.isLower then c.toNat - 'a'.toNat + 10
    else if c.isUpper then c.toNat - 'A'.toNat + 10
    else radix
  if digit < radix then some digit else none

/-- What `read_number` makes of the digits it has read. -/
def numberOf (radix bound : Nat) (maxDigits : Option Nat) (allowZeroPrefix : Bool)
    (digits : List Nat) : Option Nat :=
  if digits = [] then none
  else if ∃ limit ∈ maxDigits, limit < digits.length then none
  else if allowZeroPrefix = false ∧ digits.head? = some 0 ∧ 1 < digits.length then none
  else
    let result := digits.foldl (fun result digit => radix * result + digit) 0
    if result < bound then some result else none

/-- `read_number`, of a type whose values are below `bound`. -/
def readNumber (radix bound : Nat) (maxDigits : Option Nat) (allowZeroPrefix : Bool) :
    Reader Char Nat := do
  let digits ← many (toDigit radix)
  ofOption (numberOf radix bound maxDigits allowZeroPrefix digits)

/-- `read_separator`: the separator stands before every part but the first. -/
def readSeparator {α : Type} (sep : Char) (index : Nat) (inner : Reader Char α) : Reader Char α :=
  if 0 < index then do
    token sep
    inner
  else inner

/-- One of the four numbers of `read_ipv4_addr`. -/
def readOctet : Reader Char UInt8 := do
  let octet ← readNumber 10 256 (some 3) false
  pure (UInt8.ofNat octet)

def readIpv4Addr : Reader Char Ipv4Addr := do
  let a ← readSeparator '.' 0 readOctet
  let b ← readSeparator '.' 1 readOctet
  let c ← readSeparator '.' 2 readOctet
  let d ← readSeparator '.' 3 readOctet
  pure ⟨a, b, c, d⟩

/-- The two groups that an embedded IPv4 address stands for. -/
def Ipv4Addr.toGroups (ip : Ipv4Addr) : List UInt16 :=
  [ip.a.toUInt16 * 256 + ip.b.toUInt16, ip.c.toUInt16 * 256 + ip.d.toUInt16]

def readGroup : Reader Char UInt16 := do
  let group ← readNumber 16 65536 (some 4) true
  pure (UInt16.ofNat group)

/-- `read_groups` from the group `index` on, with `left` of them to go: the
groups, and whether the last two are an embedded IPv4 address. -/
def readGroups : (left index : Nat) → Reader Char (List UInt16 × Bool)
  | 0, _ => pure ([], false)
  | left + 1, index => do
    -- an IPv4 address takes two groups
    match ← optional (if 0 < left then readSeparator ':' index readIpv4Addr else fail) with
    | some ip => pure (ip.toGroups, true)
    | none =>
      match ← optional (readSeparator ':' index readGroup) with
      | some group =>
        let (groups, ipv4) ← readGroups left (index + 1)
        pure (group :: groups, ipv4)
      | none => pure ([], false)

/-- The address with `head` at its front, `tail` at its end and zeroes between. -/
def Ipv6Addr.ofGroups (head tail : List UInt16) : Ipv6Addr where
  groups := Vector.ofFn fun i =>
    (head ++ List.replicate (8 - head.length - tail.length) 0 ++ tail).getD i 0

def readIpv6Addr : Reader Char Ipv6Addr := do
  let (head, headIpv4) ← readGroups 8 0
  if head.length = 8 then pure (.ofGroups head [])
  else if headIpv4 then fail
  else
    token ':'
    token ':'
    let (tail, _) ← readGroups (8 - (head.length + 1)) 0
    pure (.ofGroups head tail)

def readIpAddr : Reader Char IpAddr :=
  orElse (do pure (.v4 (← readIpv4Addr))) (do pure (.v6 (← readIpv6Addr)))

def readPort : Reader Char UInt16 := do
  token ':'
  let port ← readNumber 10 65536 none true
  pure (UInt16.ofNat port)

def readScopeId : Reader Char UInt32 := do
  token '%'
  let scopeId ← readNumber 10 4294967296 none true
  pure (UInt32.ofNat scopeId)

def readSocketAddrV4 : Reader Char SocketAddr := do
  let ip ← readIpv4Addr
  let port ← readPort
  pure (.v4 ip port)

/-- The address and the scope that `read_socket_addr_v6` reads between the
brackets. -/
def readScoped : Reader Char (Ipv6Addr × UInt32) := do
  let ip ← readIpv6Addr
  let scopeId ← optional readScopeId
  pure (ip, scopeId.getD 0)

def readSocketAddrV6 : Reader Char SocketAddr := do
  token '['
  let (ip, scopeId) ← readScoped
  token ']'
  let port ← readPort
  pure (.v6 ip port 0 scopeId)

def readSocketAddr : Reader Char SocketAddr := orElse readSocketAddrV4 readSocketAddrV6

/-- `Ipv4Addr::from_str`. -/
def Ipv4Addr.fromStr (s : String) : Option Ipv4Addr := complete readIpv4Addr s.toList

/-- `Ipv6Addr::from_str`. -/
def Ipv6Addr.fromStr (s : String) : Option Ipv6Addr := complete readIpv6Addr s.toList

/-- `IpAddr::from_str`. -/
def IpAddr.fromStr (s : String) : Option IpAddr := complete readIpAddr s.toList

/-- `SocketAddr::from_str`. -/
def SocketAddr.fromStr (s : String) : Option SocketAddr := complete readSocketAddr s.toList

/-- `u32` as it is read behind the `%`. -/
def scopeIdFromStr (s : String) : Option UInt32 :=
  (complete (readNumber 10 4294967296 none true) s.toList).map UInt32.ofNat

/-- The texts that stand before `:port` in the text of a socket address, and the
address that each makes. -/
inductive SocketHost : String → UInt16 → SocketAddr → Prop where
  | v4 {text : String} {ip : Ipv4Addr} {port : UInt16} (h : Ipv4Addr.fromStr text = some ip) :
    SocketHost text port (.v4 ip port)
  | v6 {text : String} {ip : Ipv6Addr} {port : UInt16} (h : Ipv6Addr.fromStr text = some ip) :
    SocketHost ("[" ++ text ++ "]") port (.v6 ip port 0 0)
  | v6Scoped {text scope : String} {ip : Ipv6Addr} {port : UInt16} {scopeId : UInt32}
    (h : Ipv6Addr.fromStr text = some ip) (hscope : scopeIdFromStr scope = some scopeId) :
    SocketHost ("[" ++ text ++ "%" ++ scope ++ "]") port (.v6 ip port 0 scopeId)

section Numbers

theorem toDigit_eq_none {c : Char} (h : ¬ c.isAlphanum) (radix : Nat) : toDigit radix c = none := by
  delta Char.isAlphanum Char.isAlpha at h
  simp only [Bool.or_eq_true, not_or] at h
  obtain ⟨⟨hupper, hlower⟩, hdigit⟩ := h
  simp [toDigit, hdigit, hlower, hupper]

theorem toDigit_of_isDigit {c : Char} (h : c.isDigit) :
    toDigit 10 c = some (c.toNat - '0'.toNat) := by
  have hlt : c.toNat - '0'.toNat < 10 := by
    simp only [Char.isDigit, Bool.and_eq_true, decide_eq_true_eq] at h
    have hnine : c.toNat ≤ 57 := h.2
    change c.toNat - 48 < 10
    omega
  unfold toDigit
  rw [if_pos h]
  exact if_pos hlt

theorem numberOf_eq_some {radix bound : Nat} {digits : List Nat} (hdigits : digits ≠ [])
    (h : digits.foldl (fun result digit => radix * result + digit) 0 < bound) :
    numberOf radix bound none true digits =
      some (digits.foldl (fun result digit => radix * result + digit) 0) := by
  simp [numberOf, hdigits, h]

/-- The decimal text of a number is read as that number. -/
theorem readNumber_toDigits {n bound : Nat} (h : n < bound) :
    readNumber 10 bound none true (Nat.toDigits 10 n) = some (n, []) := by
  have hdigits : ∀ c ∈ Nat.toDigits 10 n, toDigit 10 c = some (c.toNat - '0'.toNat) :=
    fun c hc => toDigit_of_isDigit (Nat.isDigit_of_mem_toDigits (by decide) (by decide) hc)
  have hvalue : ((Nat.toDigits 10 n).map fun c => c.toNat - '0'.toNat).foldl
      (fun result digit => 10 * result + digit) 0 = n := by
    rw [List.foldl_map]
    exact Nat.ofDigitChars_ten_toDigits
  refine bind_eq_some.mpr ⟨_, _, many_of_forall hdigits, ofOption_eq_some.mpr ⟨?_, rfl⟩⟩
  rw [numberOf_eq_some (by simp) (by rwa [hvalue]), hvalue]

end Numbers

section Ends

variable {w : Char} (hdigit : ∀ radix, toDigit radix w = none)
include hdigit

theorem endedBy_readNumber (radix bound : Nat) (maxDigits : Option Nat) (allowZeroPrefix : Bool) :
    EndedBy w (readNumber radix bound maxDigits allowZeroPrefix) :=
  (EndedBy.many (hdigit radix)).bind fun _ => .ofOption _

theorem endedBy_readOctet : EndedBy w readOctet :=
  (endedBy_readNumber hdigit 10 256 (some 3) false).bind fun _ => .pure _

theorem endedBy_readGroup : EndedBy w readGroup :=
  (endedBy_readNumber hdigit 16 65536 (some 4) true).bind fun _ => .pure _

omit hdigit in
theorem endedBy_readSeparator {α : Type} {sep : Char} {inner : Reader Char α} (hsep : w ≠ sep)
    (hinner : EndedBy w inner) (index : Nat) : EndedBy w (readSeparator sep index inner) := by
  unfold readSeparator
  split_ifs
  · exact (EndedBy.token hsep).bind fun _ => hinner
  · exact hinner

variable (hdot : w ≠ '.')
include hdot

theorem endedBy_readIpv4Addr : EndedBy w readIpv4Addr := by
  have hoctet := endedBy_readSeparator hdot (endedBy_readOctet hdigit)
  exact (hoctet 0).bind fun _ => (hoctet 1).bind fun _ => (hoctet 2).bind fun _ =>
    (hoctet 3).bind fun _ => .pure _

variable (hcolon : w ≠ ':')
include hcolon

theorem endedBy_readGroups (left index : Nat) : EndedBy w (readGroups left index) := by
  induction left generalizing index with
  | zero => exact .pure _
  | succ left ih =>
    refine EndedBy.bind (.optional ?_) fun ipv4 => ?_
    · split_ifs
      · exact endedBy_readSeparator hcolon (endedBy_readIpv4Addr hdigit hdot) index
      · exact .fail
    · cases ipv4 with
      | some ip => exact .pure _
      | none =>
        refine EndedBy.bind (.optional ?_) fun group => ?_
        · exact endedBy_readSeparator hcolon (endedBy_readGroup hdigit) index
        · cases group with
          | some group => exact (ih (index + 1)).bind fun _ => .pure _
          | none => exact .pure _

theorem endedBy_readIpv6Addr : EndedBy w readIpv6Addr := by
  refine (endedBy_readGroups hdigit hdot hcolon 8 0).bind fun ⟨head, headIpv4⟩ => ?_
  dsimp only
  split_ifs
  · exact .pure _
  · exact .fail
  · refine (EndedBy.token hcolon).bind fun _ => (EndedBy.token hcolon).bind fun _ => ?_
    exact (endedBy_readGroups hdigit hdot hcolon _ 0).bind fun _ => .pure _

theorem endedBy_readScoped (hpercent : w ≠ '%') : EndedBy w readScoped := by
  refine (endedBy_readIpv6Addr hdigit hdot hcolon).bind fun _ => ?_
  refine (EndedBy.optional ?_).bind fun _ => .pure _
  exact (EndedBy.token hpercent).bind fun _ =>
    (endedBy_readNumber hdigit 10 4294967296 none true).bind fun _ => .pure _

end Ends

section Port

theorem readPort_eq_some {ts : List Char} {port : UInt16} :
    readPort ts = some (port, []) ↔ ∃ digits value, ts = ':' :: digits ∧
      readNumber 10 65536 none true digits = some (value, []) ∧ UInt16.ofNat value = port := by
  constructor
  · intro h
    obtain ⟨_, digits, hcolon, h⟩ := bind_eq_some.mp h
    obtain ⟨value, left, hvalue, h⟩ := bind_eq_some.mp h
    obtain ⟨hport, rfl⟩ := pure_eq_some.mp h
    exact ⟨digits, value, token_eq_some.mp hcolon, hvalue, hport⟩
  · rintro ⟨digits, value, rfl, hvalue, rfl⟩
    exact bind_eq_some.mpr ⟨(), digits, token_eq_some.mpr rfl,
      bind_eq_some.mpr ⟨value, [], hvalue, rfl⟩⟩

/-- The port behind a host, as `format!` writes it. -/
def portText (port : UInt16) : List Char := ':' :: Nat.toDigits 10 port.toNat

theorem readPort_portText (port : UInt16) : readPort (portText port) = some (port, []) :=
  readPort_eq_some.mpr ⟨_, _, rfl, readNumber_toDigits port.toNat_lt, UInt16.ofNat_toNat⟩

/-- What is read as a port at the end of a text that ends in a port is that
port: there is no colon in it but the first. -/
theorem readPort_of_append {host pre left : List Char} {port read : UInt16}
    (htext : host ++ portText port = pre ++ left) (hread : readPort left = some (read, [])) :
    pre = host ∧ left = portText port ∧ read = port := by
  have hnumber := endedBy_readNumber (toDigit_eq_none (c := ':') (by decide))
  have hcolon {ts : List Char} {value : Nat}
      (h : readNumber 10 65536 none true ts = some (value, [])) : ':' ∉ ts :=
    (hnumber 10 65536 none true).notMem_of_complete h
  obtain ⟨digits, value, rfl, hvalue, -⟩ := readPort_eq_some.mp hread
  obtain ⟨rfl, hdigits⟩ := append_cons_inj (hcolon (readNumber_toDigits port.toNat_lt))
    (hcolon hvalue) htext
  have hleft : ':' :: digits = portText port := congrArg (':' :: ·) hdigits.symm
  rw [hleft, readPort_portText, Option.some.injEq, Prod.mk.injEq] at hread
  exact ⟨rfl, hleft, hread.1.symm⟩

end Port

section Host

theorem readScoped_eq_some {text : List Char} {ip : Ipv6Addr} {scopeId : UInt32} :
    readScoped text = some ((ip, scopeId), []) ↔
      readIpv6Addr text = some (ip, []) ∧ scopeId = 0 ∨
      ∃ pre post value, text = pre ++ '%' :: post ∧ readIpv6Addr pre = some (ip, []) ∧
        readNumber 10 4294967296 none true post = some (value, []) ∧
        scopeId = UInt32.ofNat value := by
  have hends := endedBy_readIpv6Addr (toDigit_eq_none (c := '%') (by decide)) (by decide)
    (by decide)
  constructor
  · intro h
    obtain ⟨ip', left, hip, h⟩ := bind_eq_some.mp h
    obtain ⟨scope, rest, hscope, h⟩ := bind_eq_some.mp h
    obtain ⟨heq, rfl⟩ := pure_eq_some.mp h
    obtain ⟨rfl, rfl⟩ := Prod.mk.inj heq
    rcases optional_eq_some.mp hscope with ⟨_, rfl, hread⟩ | ⟨rfl, -, rfl⟩
    · obtain ⟨_, post, hpercent, hread⟩ := bind_eq_some.mp hread
      obtain ⟨value, _, hvalue, hread⟩ := bind_eq_some.mp hread
      obtain ⟨rfl, rfl⟩ := pure_eq_some.mp hread
      rw [token_eq_some.mp hpercent, hends.eq_some_iff] at hip
      obtain ⟨pre, rfl, hpre⟩ := hip
      exact .inr ⟨pre, post, value, rfl, hpre, hvalue, rfl⟩
    · exact .inl ⟨hip, rfl⟩
  · rintro (⟨hip, rfl⟩ | ⟨pre, post, value, rfl, hpre, hvalue, rfl⟩)
    · exact bind_eq_some.mpr ⟨ip, [], hip, rfl⟩
    · have hip : readIpv6Addr (pre ++ '%' :: post) = some (ip, '%' :: post) :=
        hends.eq_some_iff.mpr ⟨pre, rfl, hpre⟩
      have hscope : readScopeId ('%' :: post) = some (UInt32.ofNat value, []) :=
        bind_eq_some.mpr ⟨(), post, token_eq_some.mpr rfl,
          bind_eq_some.mpr ⟨value, [], hvalue, rfl⟩⟩
      have hoptional : optional readScopeId ('%' :: post) =
          some (some (UInt32.ofNat value), []) :=
        optional_eq_some.mpr (.inl ⟨_, rfl, hscope⟩)
      exact bind_eq_some.mpr ⟨ip, _, hip, bind_eq_some.mpr ⟨_, [], hoptional, rfl⟩⟩

theorem readSocketAddrV4_append_portText {host : List Char} {port : UInt16} {addr : SocketAddr} :
    readSocketAddrV4 (host ++ portText port) = some (addr, []) ↔
      ∃ ip, readIpv4Addr host = some (ip, []) ∧ addr = .v4 ip port := by
  have hends := endedBy_readIpv4Addr (toDigit_eq_none (c := ':') (by decide)) (by decide)
  constructor
  · intro h
    obtain ⟨ip, left, hip, h⟩ := bind_eq_some.mp h
    obtain ⟨read, rest, hport, h⟩ := bind_eq_some.mp h
    obtain ⟨rfl, rfl⟩ := pure_eq_some.mp h
    obtain ⟨digits, _, rfl, -, -⟩ := readPort_eq_some.mp hport
    obtain ⟨pre, htext, hpre⟩ := hends.eq_some_iff.mp hip
    obtain ⟨rfl, -, rfl⟩ := readPort_of_append htext hport
    exact ⟨ip, hpre, rfl⟩
  · rintro ⟨ip, hip, rfl⟩
    have hread : readIpv4Addr (host ++ portText port) = some (ip, portText port) :=
      hends.eq_some_iff.mpr ⟨host, rfl, hip⟩
    exact bind_eq_some.mpr ⟨ip, _, hread, bind_eq_some.mpr ⟨port, [], readPort_portText port, rfl⟩⟩

theorem readSocketAddrV6_append_portText {host : List Char} {port : UInt16} {addr : SocketAddr} :
    readSocketAddrV6 (host ++ portText port) = some (addr, []) ↔
      ∃ text ip scopeId, host = '[' :: (text ++ [']']) ∧
        readScoped text = some ((ip, scopeId), []) ∧ addr = .v6 ip port 0 scopeId := by
  have hends := endedBy_readScoped (toDigit_eq_none (c := ']') (by decide)) (by decide)
    (by decide) (by decide)
  constructor
  · intro h
    obtain ⟨_, text, hopen, h⟩ := bind_eq_some.mp h
    obtain ⟨⟨ip, scopeId⟩, left, hscoped, h⟩ := bind_eq_some.mp h
    obtain ⟨_, rest, hclose, h⟩ := bind_eq_some.mp h
    obtain ⟨read, _, hport, h⟩ := bind_eq_some.mp h
    obtain ⟨rfl, rfl⟩ := pure_eq_some.mp h
    rw [token_eq_some.mp hclose] at hscoped
    obtain ⟨pre, rfl, hpre⟩ := hends.eq_some_iff.mp hscoped
    have htext : host ++ portText port = '[' :: (pre ++ [']']) ++ rest := by
      rw [token_eq_some.mp hopen]
      simp
    obtain ⟨rfl, -, rfl⟩ := readPort_of_append htext hport
    exact ⟨pre, ip, scopeId, rfl, hpre, rfl⟩
  · rintro ⟨text, ip, scopeId, rfl, hscoped, rfl⟩
    have hread : readScoped (text ++ ']' :: portText port) =
        some ((ip, scopeId), ']' :: portText port) :=
      hends.eq_some_iff.mpr ⟨text, rfl, hscoped⟩
    have hopen : '[' :: (text ++ [']']) ++ portText port =
        '[' :: (text ++ ']' :: portText port) := by
      simp
    rw [hopen]
    exact bind_eq_some.mpr ⟨(), _, token_eq_some.mpr rfl, bind_eq_some.mpr ⟨_, _, hread,
      bind_eq_some.mpr ⟨(), _, token_eq_some.mpr rfl,
        bind_eq_some.mpr ⟨port, [], readPort_portText port, rfl⟩⟩⟩⟩

theorem socketHost_of_readScoped {text : List Char} {ip : Ipv6Addr} {scopeId : UInt32}
    (h : readScoped text = some ((ip, scopeId), [])) (port : UInt16) :
    SocketHost ("[" ++ String.ofList text ++ "]") port (.v6 ip port 0 scopeId) := by
  rcases readScoped_eq_some.mp h with ⟨hip, rfl⟩ | ⟨pre, post, value, rfl, hip, hvalue, rfl⟩
  · apply SocketHost.v6
    simpa [Ipv6Addr.fromStr, complete_eq_some] using hip
  · have htext : "[" ++ String.ofList (pre ++ '%' :: post) ++ "]" =
        "[" ++ String.ofList pre ++ "%" ++ String.ofList post ++ "]" := by
      apply String.toList_injective
      simp
    rw [htext]
    apply SocketHost.v6Scoped
    · simpa [Ipv6Addr.fromStr, complete_eq_some] using hip
    · simp [scopeIdFromStr, complete_eq_some.mpr hvalue]

/-- A text ending in a port is that of a socket address exactly when it is a host
that stands before it. -/
theorem SocketAddr.fromStr_append_port {host : String} {port : UInt16} {addr : SocketAddr} :
    SocketAddr.fromStr (host ++ ":" ++ toString port) = some addr ↔ SocketHost host port addr := by
  have htext : (host ++ ":" ++ toString port).toList = host.toList ++ portText port := by
    change (host ++ ":" ++ toString port.toNat).toList = _
    simp [portText]
  rw [SocketAddr.fromStr, complete_eq_some, htext]
  constructor
  · intro h
    rcases orElse_eq_some.mp h with h | ⟨-, h⟩
    · obtain ⟨ip, hip, rfl⟩ := readSocketAddrV4_append_portText.mp h
      exact .v4 (complete_eq_some.mpr hip)
    · obtain ⟨text, ip, scopeId, hhost, hscoped, rfl⟩ := readSocketAddrV6_append_portText.mp h
      have hbrackets : host = "[" ++ String.ofList text ++ "]" := by
        apply String.toList_injective
        simp [hhost]
      rw [hbrackets]
      exact socketHost_of_readScoped hscoped port
  · intro h
    apply orElse_eq_some.mpr
    cases h with
    | v4 h => exact .inl (readSocketAddrV4_append_portText.mpr ⟨_, complete_eq_some.mp h, rfl⟩)
    | @v6 text ip _ h =>
      refine .inr ⟨by simp; rfl, readSocketAddrV6_append_portText.mpr
        ⟨text.toList, ip, 0, by simp, ?_, rfl⟩⟩
      exact readScoped_eq_some.mpr (.inl ⟨complete_eq_some.mp h, rfl⟩)
    | @v6Scoped text scope ip _ scopeId h hscope =>
      obtain ⟨value, hvalue, rfl⟩ := Option.map_eq_some_iff.mp hscope
      refine .inr ⟨by simp; rfl, readSocketAddrV6_append_portText.mpr
        ⟨text.toList ++ '%' :: scope.toList, ip, _, by simp, ?_, rfl⟩⟩
      exact readScoped_eq_some.mpr (.inr ⟨_, _, value, rfl, complete_eq_some.mp h,
        complete_eq_some.mp hvalue, rfl⟩)

/-- No IP address starts with a bracket. -/
theorem IpAddr.fromStr_bracket (text : String) : IpAddr.fromStr ("[" ++ text) = none := by
  have hchars : ("[" ++ text).toList = '[' :: text.toList := by simp
  rw [IpAddr.fromStr, hchars]
  rfl

theorem IpAddr.fromStr_of_ipv4 {text : String} {ip : Ipv4Addr}
    (h : Ipv4Addr.fromStr text = some ip) : IpAddr.fromStr text = some (.v4 ip) := by
  apply complete_eq_some.mpr
  apply orElse_eq_some.mpr
  exact .inl (bind_eq_some.mpr ⟨ip, [], complete_eq_some.mp h, rfl⟩)

/-- Where the host is the text of an IP address, it is that of the one in the
socket address, which is no IPv6 address. -/
theorem SocketHost.of_ipAddr {host : String} {port : UInt16} {addr : SocketAddr} {ip : IpAddr}
    (h : SocketHost host port addr) (hip : IpAddr.fromStr host = some ip) :
    ∃ v4, ip = .v4 v4 ∧ addr = .v4 v4 port := by
  cases h with
  | @v4 _ v4 _ h =>
    rw [IpAddr.fromStr_of_ipv4 h, Option.some.injEq] at hip
    exact ⟨v4, hip.symm, rfl⟩
  | v6 h =>
    rw [String.append_assoc, IpAddr.fromStr_bracket] at hip
    cases hip
  | v6Scoped h hscope =>
    simp only [String.append_assoc, IpAddr.fromStr_bracket] at hip
    cases hip

end Host

end Hazel.Net
