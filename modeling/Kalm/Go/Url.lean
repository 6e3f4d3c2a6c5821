/-
  File:      Kalm/Go/Url.lean
  Subject:   `net/url`: URLs and their queries, as they are parsed and written.

  * `urlEscape`, `urlUnescape` -- the bytes of a part of a URL;
  * `URL.parse`, `URL.text` -- `url.Parse` and `String`; `none` where there is an error;
  * `parseQuery`, `encodeQuery` -- the parameters of a query.
-/
import Mathlib.Data.List.Dedup
import Kalm.Go.Bytes
import Kalm.Go.Parse
import Kalm.Go.Quote

namespace Kalm

/-! ## 1. Escapes -/

/-- `'%'`. -/
abbrev percent : UInt8 := 37
/-- `'?'`. -/
abbrev questionMark : UInt8 := 63
/-- `'&'`. -/
abbrev ampersand : UInt8 := 38
/-- `'='`. -/
abbrev equalsSign : UInt8 := 61
/-- `'+'`. -/
abbrev plusSign : UInt8 := 43
/-- `'@'`. -/
abbrev atSign : UInt8 := 64

/-- `encoding`: the part of a URL. -/
inductive UrlPart where
  | path
  | host
  | zone
  | userPassword
  | queryComponent
  | fragment
  deriving DecidableEq

/-- A letter or a digit. -/
def isAlphanumeric (c : UInt8) : Bool := (97 ≤ c && c ≤ 122) || (65 ≤ c && c ≤ 90) || (48 ≤ c && c ≤ 57)

/-- `shouldEscape`. -/
def shouldEscape (c : UInt8) (part : UrlPart) : Bool :=
  if isAlphanumeric c then false
  else if (part = .host || part = .zone) && c ∈ str "!$&'()*+,;=:[]<>\"" then false
  else if c ∈ str "-_.~" then false
  else if c ∈ str "$&+,/:;=?@" then
    match part with
    | .path => c = questionMark
    | .userPassword => c = atSign || c = slash || c = questionMark || c = colon
    | .queryComponent => true
    | .fragment => false
    | .host | .zone => true
  else if part = .fragment && c ∈ str "!()*" then false
  else true

/-- An upper case digit of an escape. -/
def upperHexDigit (n : Nat) : UInt8 := if n < 10 then UInt8.ofNat (48 + n) else UInt8.ofNat (55 + n)

/-- A byte of a part. -/
def urlEscapeByte (part : UrlPart) (c : UInt8) : Str :=
  if shouldEscape c part then
    if c = space ∧ part = .queryComponent then [plusSign]
    else [percent, upperHexDigit (c.toNat / 16), upperHexDigit (c.toNat % 16)]
  else [c]

/-- `escape`. -/
def urlEscape (part : UrlPart) (s : Str) : Str := s.flatMap (urlEscapeByte part)

/-- The byte of an escape, behind its percent sign. -/
def hexByte : Str → Option UInt8
  | a :: b :: _ =>
    match unhex a, unhex b with
    | some a, some b => some (UInt8.ofNat (a * 16 + b))
    | _, _ => none
  | _ => none

/-- An escape that may not stand in a host, or in its zone. -/
def badEscape (part : UrlPart) (c : UInt8) : Bool :=
  match part with
  | .host => c < 128 && c ≠ percent
  | .zone => c ≠ percent && c ≠ space && shouldEscape c .host
  | _ => false

/-- A byte that may not stand in a part as it is. -/
def badByte (part : UrlPart) (c : UInt8) : Bool :=
  (part = .host || part = .zone) && c < 128 && shouldEscape c part

/-- `unescape`. Of what was read, `n` bytes are left. -/
def urlUnescapeFrom (part : UrlPart) : Nat → Str → Option Str
  | _, [] => some []
  | n + 1, _ :: s => urlUnescapeFrom part n s
  | 0, c :: s =>
    if c = percent then
      match hexByte s with
      | none => none
      | some b => if badEscape part b then none else (urlUnescapeFrom part 2 s).map (b :: ·)
    else if badByte part c then none
    else (urlUnescapeFrom part 0 s).map ((if c = plusSign ∧ part = .queryComponent then space else c) :: ·)

/-- `unescape`. -/
def urlUnescape (part : UrlPart) (s : Str) : Option Str := urlUnescapeFrom part 0 s

/-! ## 2. Queries -/

/-- The text before the first `c`, and the text behind it. -/
def cutAt (c : UInt8) (s : Str) : Str × Str := (s.takeWhile (· ≠ c), (s.dropWhile (· ≠ c)).tail)

/-- A parameter of a query; one that has a wrong escape is dropped. -/
def parseParameter (s : Str) : Option (Str × Str) :=
  if s = [] then none
  else
    match urlUnescape .queryComponent (cutAt equalsSign s).1, urlUnescape .queryComponent (cutAt equalsSign s).2 with
    | some key, some value => some (key, value)
    | _, _ => none

/-- `'&'` and `';'` stand between parameters. -/
def isParameterEnd (c : UInt8) : Bool := c = ampersand || c = 59

/-- `url.ParseQuery`: the parameters, in their order. -/
def parseQuery (query : Str) : List (Str × Str) := (query.splitOnP isParameterEnd).filterMap parseParameter

/-- The values of a key: `url.Values` at the key. -/
def valuesOf (params : List (Str × Str)) (key : Str) : List Str :=
  (params.filter fun p => p.1 = key).map Prod.snd

/-- `Values.Get`. -/
def getValue (params : List (Str × Str)) (key : Str) : Str := (valuesOf params key).headD []

/-- `Values.Add`. -/
def addValue (params : List (Str × Str)) (key value : Str) : List (Str × Str) := params ++ [(key, value)]

/-- `Values.Del`. -/
def delValues (params : List (Str × Str)) (key : Str) : List (Str × Str) := params.filter fun p => p.1 ≠ key

/-- The order of strings. -/
def strLe : Str → Str → Bool
  | [], _ => true
  | _ :: _, [] => false
  | a :: s, b :: t => if a = b then strLe s t else a < b

/-- The keys, sorted. -/
def sortedKeys (params : List (Str × Str)) : List Str := (params.map Prod.fst).dedup.mergeSort strLe

/-- The parameters as `Encode` goes through them. -/
def sortedParams (params : List (Str × Str)) : List (Str × Str) :=
  (sortedKeys params).flatMap fun key => (valuesOf params key).map fun value => (key, value)

/-- A parameter as it is written. -/
def encodeParameter (p : Str × Str) : Str :=
  urlEscape .queryComponent p.1 ++ equalsSign :: urlEscape .queryComponent p.2

/-- `Values.Encode`. -/
def encodeQuery (params : List (Str × Str)) : Str :=
  [ampersand].intercalate ((sortedParams params).map encodeParameter)

/-! ## 3. URLs -/

/-- `url.Userinfo`. -/
structure Userinfo where
  username : Str
  password : Option Str
  deriving DecidableEq

/-- `url.URL`. -/
structure URL where
  scheme : Str
  opaquePart : Str
  user : Option Userinfo
  host : Str
  path : Str
  rawPath : Str
  forceQuery : Bool
  rawQuery : Str
  fragment : Str
  deriving DecidableEq

/-- `new(URL)`. -/
def URL.new : URL := ⟨[], [], none, [], [], [], false, [], []⟩

/-- A byte of a scheme. -/
def isSchemeByte (c : UInt8) : Bool := isAlphanumeric c || c = plusSign || c = dash || c = dot

/-- `getscheme`. -/
def getScheme (rawurl : Str) : Option (Str × Str) :=
  match rawurl.takeWhile isSchemeByte, rawurl.dropWhile isSchemeByte with
  | [], 58 :: _ => none
  | c :: scheme, 58 :: rest => if isDigit c || c = plusSign || c = dash || c = dot then some ([], rawurl)
      else some (c :: scheme, rest)
  | _, _ => some ([], rawurl)

/-- `validOptionalPort`. -/
def validOptionalPort : Str → Bool
  | [] => true
  | c :: digits => c = colon && digits.all isDigit

/-- `strings.Index`. -/
def indexOf (sub s : Str) : Option Nat := s.tails.findIdx? fun t => sub.isPrefixOf t

/-- `parseHost`. -/
def parseHost (host : Str) : Option Str :=
  if [91].isPrefixOf host then
    match lastIndexByte host 93 with
    | none => none
    | some i =>
      if validOptionalPort (host.drop (i + 1)) then
        match indexOf (str "%25") (host.take i) with
        | none => urlUnescape .host host
        | some zone => do
          let host1 ← urlUnescape .host (host.take zone)
          let host2 ← urlUnescape .zone ((host.take i).drop zone)
          let host3 ← urlUnescape .host (host.drop i)
          some (host1 ++ host2 ++ host3)
      else none
  else
    match lastIndexByte host colon with
    | none => urlUnescape .host host
    | some i => if validOptionalPort (host.drop i) then urlUnescape .host host else none

/-- `validUserinfo`. -/
def validUserinfo (s : Str) : Bool :=
  s.all fun c => isAlphanumeric c || c ∈ str "-._:~!$&'()*+,;=%@"

/-- The user in front of the host. -/
def parseUserinfo (userinfo : Str) : Option Userinfo :=
  if validUserinfo userinfo = false then none
  else if colon ∉ userinfo then (urlUnescape .userPassword userinfo).map fun username => ⟨username, none⟩
  else do
    let username ← urlUnescape .userPassword (cutAt colon userinfo).1
    let password ← urlUnescape .userPassword (cutAt colon userinfo).2
    some ⟨username, some password⟩

/-- `parseAuthority`. -/
def parseAuthority (authority : Str) : Option (Option Userinfo × Str) :=
  match lastIndexByte authority atSign with
  | none => (parseHost authority).map fun host => (none, host)
  | some i => do
    let host ← parseHost (authority.drop (i + 1))
    let user ← parseUserinfo (authority.take i)
    some (some user, host)

/-- `setPath`. -/
def URL.setPath (u : URL) (p : Str) : Option URL :=
  (urlUnescape .path p).map fun path =>
    { u with path := path, rawPath := if urlEscape .path path = p then [] else p }

/-- The part of `parse` behind the scheme and the query. -/
def URL.parseRest (u : URL) (viaRequest : Bool) (rest : Str) : Option URL :=
  if (u.scheme ≠ [] || (!viaRequest && !(str "///").isPrefixOf rest)) && (str "//").isPrefixOf rest then
    match parseAuthority ((rest.drop 2).takeWhile (· ≠ slash)) with
    | none => none
    | some (user, host) => { u with user := user, host := host }.setPath ((rest.drop 2).dropWhile (· ≠ slash))
  else u.setPath rest

/-- A first segment with a colon is taken for a scheme. -/
def colonFirst (rest : Str) : Bool := colon ∈ rest.takeWhile (· ≠ slash)

/-- `stringContainsCTLByte`. -/
def containsCTLByte (s : Str) : Bool := s.any fun c => c < 32 || c = 127

/-- The query is cut off. A question mark at the end, when it is the only one, is kept in mind. -/
def URL.cutQuery (u : URL) (rest : Str) : URL × Str :=
  if [questionMark].isSuffixOf rest && rest.count questionMark = 1 then ({ u with forceQuery := true }, rest.dropLast)
  else ({ u with rawQuery := (cutAt questionMark rest).2 }, (cutAt questionMark rest).1)

/-- `parse`. -/
def URL.parseVia (rawurl : Str) (viaRequest : Bool) : Option URL :=
  if containsCTLByte rawurl then none
  else if rawurl = [] ∧ viaRequest then none
  else if rawurl = [star] then some { URL.new with path := [star] }
  else
    match getScheme rawurl with
    | none => none
    | some (scheme, rest) =>
      let (u, rest) := { URL.new with scheme := toLower scheme }.cutQuery rest
      if [slash].isPrefixOf rest then u.parseRest viaRequest rest
      else if u.scheme ≠ [] then some { u with opaquePart := rest }
      else if viaRequest || colonFirst rest then none
      else u.parseRest viaRequest rest

/-- `url.Parse`. -/
def URL.parse (rawurl : Str) : Option URL :=
  match URL.parseVia (cutAt hash rawurl).1 false with
  | none => none
  | some u =>
    if (cutAt hash rawurl).2 = [] then some u
    else (urlUnescape .fragment (cutAt hash rawurl).2).map fun fragment => { u with fragment := fragment }

/-- `validEncodedPath`. -/
def validEncodedPath (s : Str) : Bool :=
  s.all fun c => c ∈ str "!$&'()*+,;=:@[]%" || !shouldEscape c .path

/-- `EscapedPath`. -/
def URL.escapedPath (u : URL) : Str :=
  if u.rawPath ≠ [] ∧ validEncodedPath u.rawPath ∧ urlUnescape .path u.rawPath = some u.path then u.rawPath
  else if u.path = [star] then [star]
  else urlEscape .path u.path

/-- `Userinfo.String`. -/
def Userinfo.text (user : Userinfo) : Str :=
  urlEscape .userPassword user.username ++
    match user.password with
    | none => []
    | some password => colon :: urlEscape .userPassword password

/-- The part of `String` in front of the path. -/
def URL.authorityText (u : URL) : Str :=
  if u.scheme ≠ [] ∨ u.host ≠ [] ∨ u.user ≠ none then
    (if u.host ≠ [] ∨ u.path ≠ [] ∨ u.user ≠ none then str "//" else []) ++
      (match u.user with
      | none => []
      | some user => user.text ++ [atSign]) ++
      urlEscape .host u.host
  else []

/-- `String`. -/
def URL.text (u : URL) : Str :=
  let front := if u.scheme ≠ [] then u.scheme ++ [colon] else []
  let body :=
    if u.opaquePart ≠ [] then u.opaquePart
    else
      let path := u.escapedPath
      let path := if path ≠ [] ∧ ¬ [slash].isPrefixOf path ∧ u.host ≠ [] then slash :: path else path
      u.authorityText ++ (if front ++ u.authorityText = [] ∧ colonFirst path then str "./" else []) ++ path
  front ++ body ++ (if u.forceQuery || u.rawQuery ≠ [] then questionMark :: u.rawQuery else []) ++
    (if u.fragment ≠ [] then hash :: urlEscape .fragment u.fragment else [])

/-- `RequestURI`. -/
def URL.requestURI (u : URL) : Str :=
  (if u.opaquePart = [] then if u.escapedPath = [] then [slash] else u.escapedPath
    else if (str "//").isPrefixOf u.opaquePart then u.scheme ++ colon :: u.opaquePart else u.opaquePart) ++
    (if u.forceQuery || u.rawQuery ≠ [] then questionMark :: u.rawQuery else [])

end Kalm
