import Mathlib.Algebra.Ring.Nat
import Mathlib.Data.List.Infix

namespace EnetTsn.Uniconf

def octets (text : String) : List UInt8 := text.toUTF8.data.toList

structure Named where
  name : List UInt8
  value : UInt32
  deriving DecidableEq

/-- `yang_enumeration_map_t`: a number of zero stands for the place in the table. -/
def yangEnumerationMap (entries : List (String × UInt32)) : List Named :=
  entries.mapIdx fun sidx (str, enval) =>
    { name := octets str, value := if enval ≠ 0 then enval else UInt32.ofNat sidx }

def places (names : List String) : List Named := yangEnumerationMap (names.map fun str => (str, 0))

def yangIdentityMap (entries : List (String × UInt32)) : List Named :=
  entries.map fun (str, value) => { name := octets str, value := value }

def ieee802dqControlFwd : List Named := places ["forward", "filter", "forward-filter"]

def ieee802dqControlReg : List Named := places ["registered", "not-registered"]

def yangEnumerationStrMapList : List (List Named × String) :=
  [(places ["", "up", "down", "testing", "unknown", "dormant", "not-present", "lower-layer-down"],
      "oper-status"),
    (places ["", "full", "half", "unknown"], "duplex"),
    (places ["", "initializing", "faulty", "disabled", "listening", "pre-master", "master",
      "passive", "uncalibrated", "slave"], "port-state"),
    (places ["none", "ready", "failed"], "talker-status"),
    (places ["none", "ready", "partial-failed", "failed"], "listener-status"),
    (places ["planned", "configured", "modified"], "stream-status"),
    (ieee802dqControlFwd, "static-filtering-entries/control-element"),
    (ieee802dqControlFwd, "dynamic-reservation-entries/control-element"),
    (ieee802dqControlFwd, "dynamic-filtering-entries/control-element"),
    (ieee802dqControlReg, "mac-address-registration-entries/control-element"),
    (ieee802dqControlReg, "dynamic-vlan-registration-entries/control-element"),
    (places ["static", "dynamic"], "entry-type"),
    (places ["", "mmrp", "mvrp", "msrp", "dynamic"], "protocol"),
    (places ["", "express", "preemptable"], "preemption-status"),
    (places ["", "hold", "release"], "hold-request"),
    (places ["rsa", "dsa", "secp192r1", "sect163k1", "sect163r2", "secp224r1", "sect233k1",
      "sect233r1", "secp256r1", "sect283k1", "sect283r1", "secp384r1", "sect409k1", "sect409r1",
      "secp521r1", "sect571k1", "sect571r1"], "algorithm"),
    (places ["", "chassis-component", "interface-alias", "port-component", "mac-address",
      "network-address", "interface-name", "local"], "chassis-id-subtype"),
    (places ["", "interface-alias", "port-component", "mac-address", "network-address",
      "interface-name", "agent-circuit-id", "local"], "port-id-subtype"),
    (places ["", "tx-only", "rx-only", "tx-and-rx", "disabled"], "admin-status"),
    (places ["", "unknown", "port-ref", "system-port-number"], "if-subtype"),
    (places ["implement", "import"], "conformance-type"),
    (places ["running", "candidate", "startup"], "datastore"),
    (places ["unsync", "unstable", "stable"], "gmstate"),
    (places ["offline", "online"], "transport-status"),
    (places ["local-tcp", "unix-domain-socket"], "ipc-type"),
    (places ["init", "connected", "disconnected", "deleted", "operation-failed"],
      "end-station-status"),
    (yangEnumerationMap [("e2e", 1), ("p2p", 2), ("common-p2p", 3), ("special", 4),
      ("no-mechanism", 254)], "delay-mechanism"),
    (yangEnumerationMap [("tagged", 1), ("priority", 2), ("all", 3)], "tagged"),
    (places ["none", "not-ready", "ready"], "stream-type"),
    (places ["init", "busy", "success", "failed"], "control-status")]

def addrFamilyMap : List Named := yangIdentityMap [("ipv4", 1), ("ipv6", 2), ("nsap", 3)]

def yangIdentityrefList : List (List Named × String) :=
  [(yangIdentityMap [("udp-ipv4", 0x0001), ("udp-ipv6", 0x0002), ("ieee802-3", 0x0003),
      ("devicenet", 0x0004), ("controlnet", 0x0005), ("profinet", 0x0006), ("otn", 0x0007),
      ("unknown", 0xFFFE)], "network-protocol"),
    (yangIdentityMap [("cc-primary-sync", 6), ("cc-primary-sync-lost", 7),
      ("cc-application-specific-sync", 13), ("cc-application-specific-sync-lost", 14),
      ("cc-primary-sync-alternative-a", 52), ("cc-application-specific-alternative-a", 58),
      ("cc-primary-sync-alternative-b", 187), ("cc-application-specific-alternative-b", 193),
      ("cc-default", 248), ("cc-slave-only", 255)], "clock-class"),
    (yangIdentityMap [("ca-time-accurate-to-1000-fs", 0x17), ("ca-time-accurate-to-2500-fs", 0x18),
      ("ca-time-accurate-to-10-ps", 0x19), ("ca-time-accurate-to-25ps", 0x1A),
      ("ca-time-accurate-to-100-ps", 0x1B), ("ca-time-accurate-to-250-ps", 0x1C),
      ("ca-time-accurate-to-1000-ps", 0x1D), ("ca-time-accurate-to-2500-ps", 0x1E),
      ("ca-time-accurate-to-10-ns", 0x1F), ("ca-time-accurate-to-25-ns", 0x20),
      ("ca-time-accurate-to-100-ns", 0x21), ("ca-time-accurate-to-250-ns", 0x22),
      ("ca-time-accurate-to-1000-ns", 0x23), ("ca-time-accurate-to-2500-ns", 0x24),
      ("ca-time-accurate-to-10-us", 0x25), ("ca-time-accurate-to-25-us", 0x26),
      ("ca-time-accurate-to-100-us", 0x27), ("ca-time-accurate-to-250-us", 0x28),
      ("ca-time-accurate-to-1000-us", 0x29), ("ca-time-accurate-to-2500-us", 0x2A),
      ("ca-time-accurate-to-10-ms", 0x2B), ("ca-time-accurate-to-25-ms", 0x2C),
      ("ca-time-accurate-to-100-ms", 0x2D), ("ca-time-accurate-to-250-ms", 0x2E),
      ("ca-time-accurate-to-1-s", 0x2F), ("ca-time-accurate-to-10-s", 0x30),
      ("ca-time-accurate-to-gt-10-s", 0x31)], "clock-accuracy"),
    (yangIdentityMap [("atomic-clock", 0x10), ("gnss", 0x20), ("terrestrial-radio", 0x30),
      ("serial-time-code", 0x39), ("ptp", 0x40), ("ntp", 0x50), ("hand-set", 0x60),
      ("other", 0x90), ("internal-oscillator", 0xA0)], "time-source"),
    (yangIdentityMap [("set-gate-states", 0x0), ("set-and-hold-mac", 0x1),
      ("set-and-release-mac", 0x2)], "operation"),
    (yangIdentityMap [("specified", 0x01), ("san-rfc822-name", 0x02), ("san-dns-name", 0x03),
      ("san-ip-address", 0x04), ("san-any", 0x05), ("common-name", 0x06)], "map-type"),
    (addrFamilyMap, "address-family"),
    (addrFamilyMap, "address-subtype"),
    (yangIdentityMap [("running", 0x0), ("candidate", 0x1), ("startup", 0x2), ("conventional", 0x3),
      ("intended", 0x4), ("dynamic", 0x5), ("operational", 0x6)], "datastore"),
    (yangIdentityMap [("xsd", 0x0), ("yang", 0x1), ("yin", 0x2), ("rng", 0x3), ("rnc", 0x4)],
      "format"),
    (yangIdentityMap [("netconf-ssh", 0x0), ("netconf-soap-over-beep", 0x1),
      ("netconf-soap-over-https", 0x2), ("netconf-beep", 0x3), ("netconf-tls", 0x4),
      ("uniconf-udp", 0x5), ("uniconf-direct", 0x6), ("uniconf-udpbin", 0x7)], "transport")]

/-- `yang_bits_str_map_list`, with the number of bits of each table. -/
def yangBitsStrMapList : List (Nat × String) :=
  [(4, "tlvs-tx-enable"), (11, "system-capabilities")]

def hintTable {τ : Type} (tables : List (τ × String)) (hints : Option (List UInt8)) : Option τ :=
  hints.bind fun hint => (tables.find? fun (_, keyword) => octets keyword <:+: hint).map Prod.fst

def getvalIn (table : List Named) (str : List UInt8) : Option UInt32 :=
  (table.find? fun entry => str <+: entry.name).map Named.value

def getstrIn (table : List Named) (value : UInt32) : Option (List UInt8) :=
  (table.find? fun entry => entry.value = value).map Named.name

/-- `INVALID_ENUMERATION_VALUE` and `INVALID_IDENTIY_VALUE`. -/
def invalidValue : UInt32 := 0xFFFFFFFF

def yangEnumerationGetval (str : List UInt8) (hints : Option (List UInt8)) : UInt32 :=
  ((hintTable yangEnumerationStrMapList hints).bind fun table => getvalIn table str).getD invalidValue

def yangEnumerationGetstr (value : UInt32) (hints : Option (List UInt8)) : Option (List UInt8) :=
  (hintTable yangEnumerationStrMapList hints).bind fun table => getstrIn table value

def yangIdentityrefGetval (str : List UInt8) (hints : Option (List UInt8)) : UInt32 :=
  ((hintTable yangIdentityrefList hints).bind fun table => getvalIn table str).getD invalidValue

def yangIdentityrefGetstr (value : UInt32) (hints : Option (List UInt8)) : Option (List UInt8) :=
  (hintTable yangIdentityrefList hints).bind fun table => getstrIn table value

def yangBitsGetBitnum (hints : Option (List UInt8)) : Nat :=
  (hintTable yangBitsStrMapList hints).getD 32

end EnetTsn.Uniconf
