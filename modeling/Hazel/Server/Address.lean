import Hazel.Net
import Hazel.Server.Http

/-!
# The address that the server binds

The start-up writes the host and the port into one text and reads a socket
address back from it. Loading takes any host; the text is one of a socket address
for an IPv4 address, and for an IPv6 address in brackets.
-/

namespace Hazel

open Net Http

namespace Server

def Config.toSocketAddr (config : Config) : Except Panic SocketAddr :=
  unwrap ((SocketAddr.fromStr (config.host ++ ":" ++ toString config.port)).elim
    (.error "AddrParseError(Socket)") .ok)

/-- The start-up gets an address, which is the one that the host and the port
name where the host is the text of an IP address. -/
structure Config.YieldsNamed (config : Config) : Prop where
  yields : ∃ addr, config.toSocketAddr = .ok addr
  named : ∀ ip, IpAddr.fromStr config.host = some ip →
    config.toSocketAddr = .ok (.new ip config.port)

/-- An IPv6 address in brackets, with or without the scope it is in. -/
def Bracketed (host : String) : Prop :=
  ∃ text ip, Ipv6Addr.fromStr text = some ip ∧
    (host = "[" ++ text ++ "]" ∨
      ∃ scope scopeId, scopeIdFromStr scope = some scopeId ∧
        host = "[" ++ text ++ "%" ++ scope ++ "]")

theorem toSocketAddr_eq_ok {config : Config} {addr : SocketAddr} :
    config.toSocketAddr = .ok addr ↔ SocketHost config.host config.port addr := by
  rw [← SocketAddr.fromStr_append_port, Config.toSocketAddr]
  cases SocketAddr.fromStr (config.host ++ ":" ++ toString config.port) <;> simp [unwrap]

theorem exists_socketHost_iff (host : String) (port : UInt16) :
    (∃ addr, SocketHost host port addr) ↔
      (∃ ip, Ipv4Addr.fromStr host = some ip) ∨ Bracketed host := by
  constructor
  · rintro ⟨addr, h⟩
    cases h with
    | v4 h => exact .inl ⟨_, h⟩
    | v6 h => exact .inr ⟨_, _, h, .inl rfl⟩
    | v6Scoped h hscope => exact .inr ⟨_, _, h, .inr ⟨_, _, hscope, rfl⟩⟩
  · rintro (⟨ip, h⟩ | ⟨text, ip, h, rfl | ⟨scope, scopeId, hscope, rfl⟩⟩)
    · exact ⟨_, .v4 h⟩
    · exact ⟨_, .v6 h⟩
    · exact ⟨_, .v6Scoped h hscope⟩

/-- Loading takes any host, and only these make an address. -/
theorem yieldsNamed_iff (config : Config) :
    config.YieldsNamed ↔
      (∃ ip, Ipv4Addr.fromStr config.host = some ip) ∨ Bracketed config.host := by
  rw [← exists_socketHost_iff config.host config.port]
  constructor
  · rintro ⟨⟨addr, hyields⟩, -⟩
    exact ⟨addr, toSocketAddr_eq_ok.mp hyields⟩
  · rintro ⟨addr, hhost⟩
    have hyields : config.toSocketAddr = .ok addr := toSocketAddr_eq_ok.mpr hhost
    refine ⟨⟨addr, hyields⟩, fun ip hip => ?_⟩
    obtain ⟨v4, rfl, rfl⟩ := hhost.of_ipAddr hip
    exact hyields

/-- An IPv6 address as it is written elsewhere makes the start-up panic. -/
theorem toSocketAddr_panics_of_ipv6 {config : Config} {ip : Ipv6Addr}
    (h : IpAddr.fromStr config.host = some (.v6 ip)) :
    ∃ panic, config.toSocketAddr = .error panic := by
  cases hread : config.toSocketAddr with
  | error panic => exact ⟨panic, rfl⟩
  | ok addr =>
    obtain ⟨v4, hv4, -⟩ := (toSocketAddr_eq_ok.mp hread).of_ipAddr h
    cases hv4

/-- The loopback address of IPv6 is loaded, from the environment and from a
document, and makes the start-up panic. -/
theorem loads_unbindable_host :
    ∃ config : Config, config.host = "::1" ∧
      (Config.tryFromEnv .reference).run
        (Environment.of [("HAZEL_SERVER_HOST", .ok "::1")]) = .ok config ∧
      Config.deserialize (.table [("host", .string "::1")]) = .ok config ∧
      IpAddr.fromStr config.host = some (.v6 (.ofGroups [] [1])) ∧
      config.toSocketAddr =
        .error ⟨"called `Result::unwrap()` on an `Err` value: AddrParseError(Socket)"⟩ ∧
      ¬ config.YieldsNamed := by
  refine ⟨{ Config.default with host := "::1" }, rfl, rfl, rfl, rfl, rfl, ?_⟩
  rintro ⟨⟨addr, hyields⟩, -⟩
  cases hyields

end Server

end Hazel
