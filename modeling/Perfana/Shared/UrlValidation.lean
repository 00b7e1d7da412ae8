import Perfana.Lib.JsNumber
import Perfana.Lib.Utf16
import Mathlib.Data.Fintype.Basic

/-!
# Validation of URLs

A URL that a user gives is refused if its host is internal. Two validators decide so on the text of
the host, as the URL parser writes it: `validateUrl` reads the octets of an IPv4 address and
compares the start of an IPv6 address, `validateExternalUrl` has a list of patterns. The parser is
a parameter: of a text it gives the protocol and the host, if the text is a URL.

* `isPrivateIP_eq`: the two functions that judge an address call each other until one decides;
* `IPv6.serialize_eq`, `IPv6.serialize_mapped`: how the text of an IPv6 address begins;
* `isPrivateIP_ipv4`, `isPrivateIP_ipv6`: what is decided of the text of an address.
-/

namespace Perfana.UrlValidation

/-! ## Hosts -/

/-- A text, in scalar values. -/
abbrev Str := List Char

/-- A piece of an IPv6 address. -/
abbrev Piece := Fin 65536

/-- An IPv6 address: its pieces. -/
structure IPv6 where
  pieces : List Piece
  length_pieces : pieces.length = 8

/-- The characters of a domain: printable ones of ASCII in lower case, without those that delimit
    the parts of a URL. -/
def isDomainChar (c : Char) : Bool :=
  32 < c.toNat && c.toNat < 127 && !c.isUpper &&
    c ∉ ['#', '/', ':', '<', '>', '?', '@', '[', '\\', ']', '^', '|', '%']

/-- The labels of a name. -/
def labels (name : Str) : List Str := name.splitOn '.'

/-- The last label, the root apart, is a number: such a host is an IPv4 address or none. -/
def endsInNumber (name : Str) : Bool :=
  let parts := labels name
  let parts := if parts.getLast? = some [] then parts.dropLast else parts
  match parts.getLast?.getD [] with
  | '0' :: 'x' :: digits => digits.all fun c => c.isDigit || 'a' ≤ c && c ≤ 'f'
  | digits => digits ≠ [] && digits.all Char.isDigit

/-- A domain. -/
structure Domain where
  name : Str
  name_ne_nil : name ≠ []
  isDomainChar_name : name.all isDomainChar = true
  not_endsInNumber : endsInNumber name = false

/-- The host of a URL. -/
inductive Host
  | domain (d : Domain)
  | ipv4 (a b c d : Fin 256)
  | ipv6 (address : IPv6)
  /-- The host of a URL with another protocol, which may be empty. -/
  | other (text : Str)

/-- The first piece of an address. -/
def IPv6.first (address : IPv6) : ℕ := (address.pieces.headD 0).val

/-- The digits of a piece. -/
def hex (p : Piece) : Str := Nat.toDigits 16 p

/-- How many pieces there are zero from the first one on. -/
def zeros (pieces : List Piece) : ℕ := (pieces.takeWhile (· = 0)).length

/-- Where the first one of the longest sequences of zeros begins, unless none is longer than
    one. -/
def compressedIndex (pieces : List Piece) : Option ℕ :=
  let runs := (List.range pieces.length).map fun i => zeros (pieces.drop i)
  let longest := runs.foldr max 0
  if longest ≤ 1 then none else runs.idxOf? longest

/-- Pieces with colons between them. -/
def joinPieces (pieces : List Piece) : Str := [':'].intercalate (pieces.map hex)

/-- An address as a text: the longest sequence of zeros is compressed. -/
def IPv6.serialize (address : IPv6) : Str :=
  match compressedIndex address.pieces with
  | none => joinPieces address.pieces
  | some i =>
    joinPieces (address.pieces.take i) ++ "::".toList ++
      joinPieces ((address.pieces.drop i).dropWhile (· = 0))

/-- The decimals of an octet. -/
def decimal (octet : Fin 256) : Str := Nat.toDigits 10 octet

/-- The host as a text. -/
def Host.hostname : Host → Str
  | .domain d => d.name
  | .ipv4 a b c d => ['.'].intercalate [decimal a, decimal b, decimal c, decimal d]
  | .ipv6 address => '[' :: (address.serialize ++ [']'])
  | .other text => text

/-- A URL. -/
structure Url where
  protocol : String
  host : Host
  /-- A URL of the web has a host. -/
  host_ne_other : protocol ∈ ["http:", "https:"] → ∀ text, host ≠ .other text

/-- The parser of URLs. -/
structure UrlParser where
  parse : Str → Option Url
  /-- Without a base, an empty text is no URL. -/
  parse_nil : parse [] = none

/-- Hosts are in ASCII. -/
def toLowerCase (s : Str) : Str := s.map Char.toLower

/-! ## The validator -/

/-- What a validation results in. -/
structure UrlValidationResult where
  isValid : Bool
  error : Option String := none
  url : Option Url := none

def UrlValidationResult.invalid (error : String) : UrlValidationResult :=
  { isValid := false, error := error }

/-- The options of a validation. -/
structure UrlValidationOptions where
  blockedHosts : List Str := []
  allowedHosts : List Str := []
  allowHttp : Bool := true
  requireHttps : Bool := false

def BLOCKED_LOCALHOST_HOSTS : List Str :=
  ["localhost", "localhost.localdomain", "127.0.0.1", "0.0.0.0", "::1", "[::1]",
    "0000:0000:0000:0000:0000:0000:0000:0001", "0:0:0:0:0:0:0:1"].map String.toList

def BLOCKED_METADATA_HOSTS : List Str :=
  ["169.254.169.254", "metadata.google.internal", "metadata.goog", "169.254.169.254",
    "169.254.169.254", "169.254.169.254"].map String.toList

def BLOCKED_K8S_SUFFIXES : List Str :=
  [".svc", ".svc.cluster.local", ".cluster.local", ".pod.cluster.local", ".internal"].map
    String.toList

def ALLOWED_PROTOCOLS : List String := ["http:", "https:"]

/-- The number as an octet, unless it is none. -/
def octet : JsNumber.Number → Option ℚ
  | .finite x => if x < 0 ∨ 255 < x then none else some x
  | _ => none

/-- The octets begin with those of a range that is private or reserved. -/
def isReserved (first second third : ℚ) : Bool :=
  first = 0 || first = 10 || (first = 100 && 64 ≤ second && second ≤ 127) || first = 127 ||
    (first = 169 && second = 254) || (first = 172 && 16 ≤ second && second ≤ 31) ||
    (first = 192 && second = 0 && third = 0) || (first = 192 && second = 0 && third = 2) ||
    (first = 192 && second = 168) || (first = 198 && (second = 18 || second = 19)) ||
    (first = 198 && second = 51 && third = 100) || (first = 203 && second = 0 && third = 113) ||
    (224 ≤ first && first ≤ 239) || (240 ≤ first && first ≤ 255)

/-- The start of the address of an IPv4 host that is mapped. -/
def mappedPrefix : Str := "::ffff:".toList

/-- An IPv6 address in a private range, where `isPrivateIP` decides so for a mapped one. -/
def isPrivateIPv6 (isPrivateIP : Str → Bool) (ip : Str) : Bool :=
  let normalizedIP := (toLowerCase ip).filter fun c => c ≠ '[' ∧ c ≠ ']'
  if normalizedIP = "::1".toList ∨ normalizedIP = "0:0:0:0:0:0:0:1".toList then true
  else if normalizedIP = "::".toList ∨ normalizedIP = "0:0:0:0:0:0:0:0".toList then true
  else if "fe80:".toList.isPrefixOf normalizedIP then true
  else if "fc".toList.isPrefixOf normalizedIP ∨ "fd".toList.isPrefixOf normalizedIP then true
  else if mappedPrefix.isPrefixOf normalizedIP then
    isPrivateIP (normalizedIP.drop mappedPrefix.length)
  else false

/-- The address after the start of a mapped one, in any case of its letters. -/
def unmapped (ip : Str) : Str :=
  if mappedPrefix.isPrefixOf (toLowerCase ip) then ip.drop mappedPrefix.length else ip

/-- An address in a private range, with at most so many starts of a mapped one. -/
def isPrivateIPWithin : ℕ → Str → Bool
  | 0, _ => false
  | n + 1, ip =>
    match (unmapped ip).splitOn '.' with
    | [first, second, third, fourth] =>
      match [first, second, third, fourth].mapM fun part => octet (JsNumber.toNumber part) with
      | some (first :: second :: third :: _) => isReserved first second third
      | _ => false
    | _ => isPrivateIPv6 (isPrivateIPWithin n) ip

/-- An address in a private range. -/
def isPrivateIP (ip : Str) : Bool := isPrivateIPWithin (ip.length + 1) ip

/-- The host is on a list, or ends in a suffix that is blocked. -/
def isBlockedHostname (hostname : Str) : Bool :=
  let normalizedHost := toLowerCase hostname
  BLOCKED_LOCALHOST_HOSTS.contains normalizedHost ||
    BLOCKED_METADATA_HOSTS.contains normalizedHost ||
    BLOCKED_K8S_SUFFIXES.any fun suffix => suffix.isSuffixOf normalizedHost

/-- Validates a URL. -/
def validateUrl (parser : UrlParser) (urlString : Str) (options : UrlValidationOptions) :
    UrlValidationResult :=
  if urlString = [] then .invalid "URL is required and must be a string"
  else if Text.trim urlString = [] then .invalid "URL cannot be empty"
  else
    match parser.parse (Text.trim urlString) with
    | none => .invalid "Invalid URL format"
    | some url =>
      let allowedProtocols :=
        if options.requireHttps then ["https:"]
        else if options.allowHttp then ALLOWED_PROTOCOLS else ["https:"]
      if url.protocol ∉ allowedProtocols then
        .invalid ("Invalid protocol '" ++ url.protocol ++ "'. Only " ++
          ", ".intercalate allowedProtocols ++ " allowed")
      else
        let hostname := toLowerCase url.host.hostname
        if options.allowedHosts.any fun allowed => hostname = toLowerCase allowed then
          { isValid := true, url := url }
        else if hostname ∈ BLOCKED_LOCALHOST_HOSTS then
          .invalid "Localhost and loopback addresses are not allowed"
        else if hostname ∈ BLOCKED_METADATA_HOSTS then
          .invalid "Cloud metadata service endpoints are not allowed"
        else if BLOCKED_K8S_SUFFIXES.any fun suffix => suffix.isSuffixOf hostname then
          .invalid "Kubernetes internal addresses are not allowed"
        else if options.blockedHosts.any fun blocked => hostname = toLowerCase blocked then
          .invalid "This hostname is not allowed"
        else if isPrivateIP hostname then
          .invalid "Private and reserved IP addresses are not allowed"
        else { isValid := true, url := url }

/-! ## The validator of external URLs -/

/-- A pattern of a host. -/
inductive HostPattern
  /-- The whole host is the text. -/
  | exactly (text : Str)
  /-- The host begins with one of the texts. -/
  | startsWith (texts : List Str)
  deriving DecidableEq

/-- The texts that a pattern looks for. -/
def HostPattern.texts : HostPattern → List Str
  | exactly text => [text]
  | startsWith texts => texts

def HostPattern.test (hostname : Str) : HostPattern → Bool
  | exactly text => hostname = text
  | startsWith texts => texts.any fun text => text.isPrefixOf hostname

def hexDigits : Str := "0123456789abcdef".toList

def BLOCKED_IP_PATTERNS : List HostPattern :=
  [.startsWith ["127.".toList], .startsWith ["10.".toList],
    .startsWith ((List.range' 16 16).map fun n => "172.".toList ++ Nat.toDigits 10 n ++ ['.']),
    .startsWith ["192.168.".toList], .startsWith ["169.254.".toList],
    .exactly "0.0.0.0".toList, .exactly "localhost".toList, .exactly "::1".toList,
    .exactly "[::1]".toList, .startsWith ["fe80:".toList], .startsWith ["fc00:".toList],
    .startsWith (hexDigits.flatMap fun x => hexDigits.map fun y => ['f', 'd', x, y, ':'])]

def BLOCKED_HOSTNAMES : List Str :=
  ["metadata.google.internal", "metadata.goog", "169.254.169.254", "169.254.170.2",
    "fd00:ec2::254"].map String.toList

def ALLOWED_SCHEMES : List String := ["http:", "https:"]

/-- The options of a validation of an external URL. -/
structure ExternalUrlOptions where
  allowedSchemes : List String := ALLOWED_SCHEMES
  allowedHosts : Option (List Str) := none
  requireHttps : Bool := false

/-- The host is the one that is allowed, or a subdomain of it after a wildcard. -/
def allows (hostname allowed : Str) : Bool :=
  if "*.".toList.isPrefixOf allowed then
    let domain := toLowerCase (allowed.drop 2)
    hostname = domain || ('.' :: domain).isSuffixOf hostname
  else hostname = toLowerCase allowed

/-- Validates an external URL. -/
def validateExternalUrl (parser : UrlParser) (urlString : Str) (options : ExternalUrlOptions) :
    UrlValidationResult :=
  match parser.parse urlString with
  | none => .invalid "Invalid URL format"
  | some url =>
    if url.protocol ∉ options.allowedSchemes then
      .invalid ("URL scheme '" ++ url.protocol ++ "' is not allowed. Allowed schemes: " ++
        ", ".intercalate options.allowedSchemes)
    else if options.requireHttps && url.protocol ≠ "https:" then .invalid "HTTPS is required"
    else
      let hostname := toLowerCase url.host.hostname
      if hostname ∈ BLOCKED_HOSTNAMES then
        .invalid "URL hostname is blocked (potential metadata service)"
      else if BLOCKED_IP_PATTERNS.any fun pattern => pattern.test hostname then
        .invalid "URL points to a private/internal IP address"
      else
        let allowedHosts := options.allowedHosts.getD []
        if allowedHosts ≠ [] ∧ ¬ allowedHosts.any (allows hostname) then
          .invalid ("URL hostname '" ++ String.ofList hostname ++ "' is not in the allowed list")
        else { isValid := true, url := url }

/-! ## Texts of hosts -/

theorem mem_toDigits {b n : ℕ} (hb : 1 < b) {c : Char} (h : c ∈ Nat.toDigits b n) :
    ∃ k < b, c = k.digitChar := by
  induction n using Nat.strong_induction_on with
  | _ n ih =>
    rw [Nat.toDigits_eq_if hb] at h
    split at h
    · exact ⟨n, by assumption, List.mem_singleton.1 h⟩
    · rcases List.mem_append.1 h with h | h
      · exact ih _ (Nat.div_lt_self (by omega) hb) h
      · exact ⟨n % b, Nat.mod_lt _ (by omega), List.mem_singleton.1 h⟩

theorem mem_hex {p : Piece} {c : Char} (h : c ∈ hex p) : c ∈ hexDigits := by
  obtain ⟨k, hk, rfl⟩ := mem_toDigits (by decide) h
  have hall : ∀ k < 16, k.digitChar ∈ hexDigits := by decide
  exact hall k hk

theorem mem_joinPieces {pieces : List Piece} {c : Char} (h : c ∈ joinPieces pieces) :
    c ∈ ':' :: hexDigits := by
  induction pieces with
  | nil => cases h
  | cons p pieces ih =>
    cases pieces with
    | nil =>
      rw [joinPieces, List.map_singleton, List.intercalate_singleton] at h
      exact List.mem_cons_of_mem _ (mem_hex h)
    | cons q pieces =>
      rw [joinPieces, List.map_cons, List.map_cons, List.intercalate_cons_cons] at h
      rcases List.mem_append.1 h with h | h
      · rcases List.mem_append.1 h with h | h
        · exact List.mem_cons_of_mem _ (mem_hex h)
        · exact List.mem_singleton.1 h ▸ List.mem_cons_self
      · exact ih h

theorem IPv6.mem_serialize {address : IPv6} {c : Char} (h : c ∈ address.serialize) :
    c ∈ ':' :: hexDigits := by
  rw [IPv6.serialize] at h
  split at h
  · exact mem_joinPieces h
  · rcases List.mem_append.1 h with h | h
    · rcases List.mem_append.1 h with h | h
      · exact mem_joinPieces h
      · have hall : ∀ c ∈ "::".toList, c ∈ ':' :: hexDigits :=
          List.forall_iff_forall_mem.1 (by decide)
        exact hall c h
    · exact mem_joinPieces h

/-- The text of an address begins with that of its first piece, unless that is zero. -/
theorem IPv6.serialize_eq (address : IPv6) (h : address.first ≠ 0) :
    ∃ rest, address.serialize = hex (address.pieces.headD 0) ++ ':' :: rest := by
  obtain ⟨pieces, hlength⟩ := address
  obtain ⟨p, q, pieces, rfl⟩ : ∃ p q ps, pieces = p :: q :: ps := by
    match pieces with
    | [] => simp at hlength
    | [p] => simp at hlength
    | p :: q :: ps => exact ⟨p, q, ps, rfl⟩
  have hp : p ≠ 0 := fun heq => h (by subst heq; rfl)
  rw [IPv6.serialize, List.headD_cons]
  cases hindex : compressedIndex (p :: q :: pieces) with
  | none =>
    refine ⟨joinPieces (q :: pieces), ?_⟩
    simp only [joinPieces, List.map_cons, List.intercalate_cons_cons, List.append_assoc]
    rfl
  | some i =>
    cases i with
    | zero =>
      -- The first piece is not one of the zeros.
      have hzeros : zeros (p :: q :: pieces) = 0 := by simp [zeros, hp]
      simp only [compressedIndex] at hindex
      split at hindex
      · cases hindex
      · rename_i hlong
        rw [List.idxOf?_eq_some_iff] at hindex
        obtain ⟨hlt, heq, -⟩ := hindex
        rw [List.getElem_map, List.getElem_range, List.drop_zero, hzeros] at heq
        omega
    | succ i =>
      cases i with
      | zero =>
        refine ⟨':' :: joinPieces ((q :: pieces).dropWhile (· = 0)), ?_⟩
        simp [joinPieces]
      | succ i =>
        refine ⟨joinPieces ((q :: pieces).take (i + 1)) ++ "::".toList ++
          joinPieces (((q :: pieces).drop (i + 1)).dropWhile (· = 0)), ?_⟩
        simp [joinPieces, List.take_succ_cons, List.intercalate_cons_cons]

/-- The text of a mapped address has the two pieces of the address that it is mapped from. -/
theorem IPv6.serialize_mapped (address : IPv6) {high low : Piece}
    (h : address.pieces = [0, 0, 0, 0, 0, 0xffff, high, low]) :
    address.serialize = mappedPrefix ++ (hex high ++ ':' :: hex low) := by
  have hruns : (List.range 8).map (fun i =>
      zeros (([0, 0, 0, 0, 0, 0xffff, high, low] : List Piece).drop i)) =
      [5, 4, 3, 2, 1, 0, zeros [high, low], zeros [low]] := rfl
  have hlow : zeros [low] ≤ 1 := (List.takeWhile_sublist _).length_le
  have hhigh : zeros [high, low] ≤ 2 := (List.takeWhile_sublist _).length_le
  have hmax : [5, 4, 3, 2, 1, 0, zeros [high, low], zeros [low]].foldr max 0 = 5 := by
    simp only [List.foldr_cons, List.foldr_nil]
    omega
  have hindex : compressedIndex [0, 0, 0, 0, 0, 0xffff, high, low] = some 0 := by
    rw [compressedIndex]
    simp only [List.length_cons, List.length_nil, hruns, hmax]
    rfl
  rw [IPv6.serialize, h, hindex]
  simp only [joinPieces, List.take_zero, List.drop_zero]
  have hfirst : ([0, 0, 0, 0, 0, 0xffff, high, low] : List Piece).dropWhile (fun p => p = 0) =
      [0xffff, high, low] := rfl
  have hffff : hex 0xffff = "ffff".toList := by decide
  rw [hfirst]
  simp [hffff, mappedPrefix]

/-! ## Addresses in a private range -/

theorem unmapped_subset (ip : Str) : unmapped ip ⊆ ip := by
  rw [unmapped]
  split
  · exact List.drop_subset _ _
  · exact List.Subset.refl _

/-- What follows the start of a mapped address is shorter than the address. -/
theorem isPrivateIPv6_congr {f g : Str → Bool} {ip : Str}
    (h : ∀ rest : Str, rest.length < ip.length → f rest = g rest) :
    isPrivateIPv6 f ip = isPrivateIPv6 g ip := by
  simp only [isPrivateIPv6]
  split_ifs with _ _ _ _ hmapped
  all_goals try rfl
  apply h
  have hle : mappedPrefix.length ≤ _ := (List.isPrefixOf_iff_prefix.1 hmapped).length_le
  have hpos : 0 < mappedPrefix.length := by decide
  have hfilter := List.length_filter_le (fun c => decide (c ≠ '[' ∧ c ≠ ']')) (toLowerCase ip)
  rw [toLowerCase, List.length_map] at hfilter
  rw [List.length_drop]
  rw [toLowerCase] at hle ⊢
  omega

theorem isPrivateIPWithin_eq {n m : ℕ} {ip : Str} (hn : ip.length < n) (hm : ip.length < m) :
    isPrivateIPWithin n ip = isPrivateIPWithin m ip := by
  induction n generalizing m ip with
  | zero => omega
  | succ n ih =>
    cases m with
    | zero => omega
    | succ m =>
      simp only [isPrivateIPWithin]
      split
      · rfl
      · exact isPrivateIPv6_congr fun rest hrest => ih (by omega) (by omega)

/-- The recursion ends: an address is read as four octets or else as an IPv6 address. -/
theorem isPrivateIP_eq (ip : Str) :
    isPrivateIP ip =
      match (unmapped ip).splitOn '.' with
      | [first, second, third, fourth] =>
        match [first, second, third, fourth].mapM fun part => octet (JsNumber.toNumber part) with
        | some (first :: second :: third :: _) => isReserved first second third
        | _ => false
      | _ => isPrivateIPv6 isPrivateIP ip := by
  rw [isPrivateIP, isPrivateIPWithin]
  have hrest : isPrivateIPv6 (isPrivateIPWithin ip.length) ip = isPrivateIPv6 isPrivateIP ip :=
    isPrivateIPv6_congr fun rest hrest => isPrivateIPWithin_eq hrest (Nat.lt_succ_self _)
  rw [hrest]

theorem isPrivateIP_of_not_mem {ip : Str} (h : '.' ∉ ip) :
    isPrivateIP ip = isPrivateIPv6 isPrivateIP ip := by
  rw [isPrivateIP_eq, List.splitOn_eq_singleton fun hmem => h (unmapped_subset ip hmem)]

/-! ## Texts of hosts in lower case -/

theorem toLowerCase_eq {s : Str} (h : ∀ c ∈ s, c.isUpper = false) : toLowerCase s = s := by
  conv_rhs => rw [← List.map_id s]
  exact List.map_congr_left fun c hc => dif_neg (of_decide_eq_false (h c hc))

theorem Domain.of_mem (d : Domain) {c : Char} (h : c ∈ d.name) :
    c.isUpper = false ∧ c ≠ ':' ∧ c ≠ '[' ∧ c ≠ ']' := by
  have hc := List.all_eq_true.1 d.isDomainChar_name c h
  simp only [isDomainChar, Bool.and_eq_true, Bool.not_eq_true', decide_eq_true_eq] at hc
  refine ⟨hc.1.2, ?_, ?_, ?_⟩
  all_goals
    rintro rfl
    exact absurd hc.2 (by decide)

theorem mem_ipv4 {a b c d : Fin 256} {x : Char} (h : x ∈ (Host.ipv4 a b c d).hostname) :
    x = '.' ∨ x.isDigit = true := by
  have hdecimal : ∀ o : Fin 256, x ∈ decimal o → x.isDigit = true := fun _ ho =>
    Nat.isDigit_of_mem_toDigits (by decide) (by decide) ho
  simp only [Host.hostname, List.intercalate_cons_cons, List.intercalate_singleton,
    List.mem_append, List.mem_singleton] at h
  rcases h with (h | h) | (h | h) | (h | h) | h
  all_goals first | exact .inl h | exact .inr (hdecimal _ h)

theorem isUpper_of_mem_hostname {host : Host} (h : ∀ text, host ≠ .other text) {c : Char}
    (hc : c ∈ host.hostname) : c.isUpper = false := by
  cases host with
  | domain d => exact (d.of_mem hc).1
  | ipv4 a b c' d =>
    rcases mem_ipv4 hc with rfl | hc
    · rfl
    · have hdigit := (JsNumber.isDigit_iff.1 hc).2
      refine decide_eq_false fun hupper => ?_
      exact absurd ((UInt32.le_iff_toNat_le.1 hupper.1).trans hdigit) (by decide)
  | ipv6 address =>
    have hall : ∀ c ∈ '[' :: ']' :: ':' :: hexDigits, c.isUpper = false :=
      List.forall_iff_forall_mem.1 (by decide)
    refine hall c ?_
    rcases List.mem_cons.1 hc with rfl | hc
    · exact List.mem_cons_self
    · rcases List.mem_append.1 hc with hc | hc
      · exact List.mem_cons_of_mem _ (List.mem_cons_of_mem _ (IPv6.mem_serialize hc))
      · exact List.mem_cons_of_mem _ (List.mem_singleton.1 hc ▸ List.mem_cons_self)
  | other text => exact absurd rfl (h text)

theorem toLowerCase_hostname {host : Host} (h : ∀ text, host ≠ .other text) :
    toLowerCase host.hostname = host.hostname :=
  toLowerCase_eq fun _ hc => isUpper_of_mem_hostname h hc

/-! ## IPv4 addresses -/

theorem splitOn_ipv4 (a b c d : Fin 256) :
    (Host.ipv4 a b c d).hostname.splitOn '.' = [decimal a, decimal b, decimal c, decimal d] := by
  have hdecimal : ∀ o : Fin 256, '.' ∉ decimal o := fun o ho =>
    absurd (Nat.isDigit_of_mem_toDigits (by decide) (by decide) ho) (by decide)
  refine List.splitOn_intercalate '.' ?_ (List.cons_ne_nil _ _)
  simp [hdecimal]

theorem octet_decimal (o : Fin 256) :
    octet (JsNumber.toNumber (decimal o)) = some ((o : ℕ) : ℚ) := by
  have hle : ((o : ℕ) : ℚ) ≤ 255 := by exact_mod_cast Nat.le_of_lt_succ o.isLt
  have hnonneg : (0 : ℚ) ≤ ((o : ℕ) : ℚ) := Nat.cast_nonneg _
  rw [decimal, JsNumber.toNumber_toDigits (o.isLt.trans (by decide)), octet,
    if_neg (not_or.2 ⟨not_lt.2 hnonneg, not_lt.2 hle⟩)]

theorem unmapped_of_not_mem {ip : Str} (hlower : toLowerCase ip = ip) (h : ':' ∉ ip) :
    unmapped ip = ip := by
  rw [unmapped, if_neg]
  intro hstart
  exact h (hlower ▸ (List.isPrefixOf_iff_prefix.1 hstart).subset (by decide))

theorem isPrivateIP_ipv4 (a b c d : Fin 256) :
    isPrivateIP (Host.ipv4 a b c d).hostname = isReserved (a : ℕ) (b : ℕ) (c : ℕ) := by
  have hcolon : ':' ∉ (Host.ipv4 a b c d).hostname := fun h =>
    (mem_ipv4 h).elim (absurd · (by decide)) (absurd · (by decide))
  have hlower := @toLowerCase_hostname (.ipv4 a b c d) (by simp)
  rw [isPrivateIP_eq, unmapped_of_not_mem hlower hcolon, splitOn_ipv4]
  simp only [List.mapM_cons, List.mapM_nil, octet_decimal]
  rfl

/-! ## IPv6 addresses -/

theorem filter_ipv6 (address : IPv6) :
    ((Host.ipv6 address).hostname.filter fun c => c ≠ '[' ∧ c ≠ ']') = address.serialize := by
  have hall : ∀ c ∈ ':' :: hexDigits, c ≠ '[' ∧ c ≠ ']' :=
    List.forall_iff_forall_mem.1 (by decide)
  simp only [Host.hostname, List.filter_cons, List.filter_append, List.filter_nil]
  simpa using fun c hc => hall c (IPv6.mem_serialize hc)

/-- Whether the address that has the text is private. -/
def isPrivateText (text : Str) : Prop :=
  text = "::1".toList ∨ text = "0:0:0:0:0:0:0:1".toList ∨ text = "::".toList ∨
    text = "0:0:0:0:0:0:0:0".toList ∨ "fe80:".toList <+: text ∨ "fc".toList <+: text ∨
    "fd".toList <+: text ∨
    mappedPrefix <+: text ∧ isPrivateIP (text.drop mappedPrefix.length) = true

theorem isPrivateIPv6_iff {ip text : Str}
    (htext : ((toLowerCase ip).filter fun c => c ≠ '[' ∧ c ≠ ']') = text) :
    isPrivateIPv6 isPrivateIP ip = true ↔ isPrivateText text := by
  simp only [isPrivateIPv6, htext, isPrivateText, List.isPrefixOf_iff_prefix, Bool.if_true_left,
    Bool.if_false_right, Bool.or_eq_true, Bool.and_eq_true, decide_eq_true_eq, or_assoc]

theorem isPrivateIP_ipv6 (address : IPv6) :
    isPrivateIP (Host.ipv6 address).hostname = true ↔ isPrivateText address.serialize := by
  have hall : ∀ c ∈ ':' :: hexDigits, c ≠ '.' := List.forall_iff_forall_mem.1 (by decide)
  have hdot : '.' ∉ (Host.ipv6 address).hostname := by
    intro h
    rcases List.mem_cons.1 h with h | h
    · cases h
    · rcases List.mem_append.1 h with h | h
      · exact hall _ (IPv6.mem_serialize h) rfl
      · cases List.mem_singleton.1 h
  have hlower := @toLowerCase_hostname (.ipv6 address) (by simp)
  rw [isPrivateIP_of_not_mem hdot, isPrivateIPv6_iff]
  rw [hlower, filter_ipv6]

theorem isPrivateText_linkLocal {p : Piece} {rest : Str} (h : 0xfe80 ≤ p.val)
    (h' : p.val ≤ 0xfebf) : isPrivateText (hex p ++ ':' :: rest) ↔ p.val = 0xfe80 := by
  have hdigits : ∀ k < 64, Nat.toDigits 16 (0xfe80 + k) =
      ['f', 'e', Nat.digitChar (8 + k / 16), Nat.digitChar (k % 16)] := by decide +kernel
  obtain ⟨k, hk⟩ := Nat.exists_eq_add_of_le h
  have hlt : k < 64 := by omega
  rw [hex, hk, hdigits k hlt, isPrivateText]
  simp [mappedPrefix, List.cons_prefix_cons]
  omega

theorem isPrivateText_uniqueLocal {p : Piece} {rest : Str} (h : 0xfc00 ≤ p.val)
    (h' : p.val ≤ 0xfdff) : isPrivateText (hex p ++ ':' :: rest) := by
  have hdigits : ∀ k < 512, "fc".toList <+: Nat.toDigits 16 (0xfc00 + k) ∨
      "fd".toList <+: Nat.toDigits 16 (0xfc00 + k) := by decide +kernel
  obtain ⟨k, hk⟩ := Nat.exists_eq_add_of_le h
  rw [hex, hk, isPrivateText]
  have hstart := hdigits k (by omega)
  have hmono : ∀ l : Str, l <+: Nat.toDigits 16 (0xfc00 + k) →
      l <+: Nat.toDigits 16 (0xfc00 + k) ++ ':' :: rest := fun _ hl =>
    hl.trans (List.prefix_append _ _)
  exact .inr (.inr (.inr (.inr (.inr (hstart.elim (fun hc => .inl (hmono _ hc)) fun hd =>
    .inr (.inl (hmono _ hd)))))))

theorem colon_not_mem_hex (p : Piece) : ':' ∉ hex p := fun h => absurd (mem_hex h) (by decide)

/-- Two pieces are not the start of a private address, but for those that begin as one. -/
theorem not_isPrivateText {high low : Piece} (h : (hex high).head? ≠ some 'f') :
    ¬ isPrivateText (hex high ++ ':' :: hex low) := by
  obtain ⟨c, cs, hc⟩ := List.exists_cons_of_ne_nil (l := hex high) Nat.toDigits_ne_nil
  have hne : c ≠ ':' := fun heq => colon_not_mem_hex high (hc ▸ heq ▸ List.mem_cons_self)
  have hnef : c ≠ 'f' := fun heq => h (by rw [hc, heq]; rfl)
  have hlong : ∀ rest : Str, ':' ∈ rest → hex high ++ ':' :: hex low ≠ '0' :: ':' :: rest := by
    intro rest hrest heq
    have hsplit := Text.append_sep_inj (colon_not_mem_hex high) (b := ['0']) (by decide) heq
    exact colon_not_mem_hex low (hsplit.2 ▸ hrest)
  rintro (htext | htext | htext | htext | htext | htext | htext | ⟨htext, -⟩)
  · rw [hc] at htext
    exact hne (List.cons.inj htext).1
  · exact hlong _ (by decide) htext
  · rw [hc] at htext
    exact hne (List.cons.inj htext).1
  · exact hlong _ (by decide) htext
  all_goals
    rw [hc] at htext
    have hhead := (List.cons_prefix_cons.1 htext).1
    first | exact hnef hhead.symm | exact hne hhead.symm

theorem hex_append_ne {p : Piece} {rest : Str} : hex p ++ ':' :: rest ≠ "::1".toList := by
  intro heq
  have hsplit := Text.append_sep_inj (colon_not_mem_hex p) (b := []) List.not_mem_nil heq
  exact Nat.toDigits_ne_nil hsplit.1

theorem not_isPrivateIP_pieces {high low : Piece} (h : (hex high).head? ≠ some 'f') :
    isPrivateIP (hex high ++ ':' :: hex low) = false := by
  have hall : ∀ c ∈ ':' :: hexDigits, c.isUpper = false ∧ c ≠ '.' ∧ c ≠ '[' ∧ c ≠ ']' :=
    List.forall_iff_forall_mem.1 (by decide)
  have hmem : ∀ c ∈ hex high ++ ':' :: hex low, c ∈ ':' :: hexDigits := by
    intro c hc
    rcases List.mem_append.1 hc with hc | hc
    · exact List.mem_cons_of_mem _ (mem_hex hc)
    · rcases List.mem_cons.1 hc with rfl | hc
      · exact List.mem_cons_self
      · exact List.mem_cons_of_mem _ (mem_hex hc)
  have htext : ((toLowerCase (hex high ++ ':' :: hex low)).filter fun c => c ≠ '[' ∧ c ≠ ']') =
      hex high ++ ':' :: hex low := by
    rw [toLowerCase_eq fun c hc => (hall c (hmem c hc)).1, List.filter_eq_self]
    exact fun c hc => decide_eq_true (hall c (hmem c hc)).2.2
  rw [isPrivateIP_of_not_mem fun hdot => (hall _ (hmem _ hdot)).2.1 rfl, ← Bool.not_eq_true,
    isPrivateIPv6_iff htext]
  exact not_isPrivateText h

theorem not_isPrivateText_mapped {high low : Piece} (h : (hex high).head? ≠ some 'f') :
    ¬ isPrivateText (mappedPrefix ++ (hex high ++ ':' :: hex low)) := by
  rw [isPrivateText, List.drop_left, not_isPrivateIP_pieces h]
  simp [mappedPrefix]

end Perfana.UrlValidation
