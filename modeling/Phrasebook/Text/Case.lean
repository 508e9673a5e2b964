import Phrasebook.Text.Chars
import Phrasebook.Text.Cased

/-!
Case mapping of Unicode 14.0 text.

Lower-casing and upper-casing map each character by the full case mappings: most characters
map to one character, and a few map to two or three (`ß` upper-cases to `SS`, `İ` lower-cases
to `i` with a combining dot). One mapping depends on the letters around: a capital sigma
lower-cases to the final `ς` when a cased letter stands before it and none after it, the
case-ignorable characters skipped on both sides, and to `σ` otherwise.

The one-character mappings come in runs: items `lo:hi:delta:step` packed below say that every
`step`-th code point from `lo` to `hi` maps to itself plus `delta`. The longer mappings are
listed as `code:first.second...`.

`lowerChar_ascii`: an ASCII capital letter lower-cases to the letter 32 places on.
`lowerFrom_eq_flatMap`: a text without a capital sigma lower-cases character by character.
-/

namespace Phrasebook.Text

/-- One run of a case mapping. -/
structure CaseRun where
  lo : Nat
  hi : Nat
  delta : Int
  step : Nat
deriving Inhabited, Repr

def signedValue (cs : List Char) : Int :=
  match cs with
  | '-' :: ds => -((String.ofList ds).toNat! : Int)
  | ds => ((String.ofList ds).toNat! : Int)

def readRun (item : List Char) : CaseRun :=
  match item.splitOn ':' with
  | [lo, hi, d, st] => ⟨hexValue lo, hexValue hi, signedValue d, (String.ofList st).toNat!⟩
  | _ => ⟨1, 0, 0, 1⟩

/-- Reads one packed long mapping `code:first.second...`. -/
def readLong (item : List Char) : Nat × List Nat :=
  match item.splitOn ':' with
  | [c, rest] => (hexValue c, (rest.splitOn '.').map hexValue)
  | _ => (0, [])

/-- Lower-casing runs, packed. -/
def lowerPacked : String :=
  "41:5a:32:1 c0:d6:32:1 d8:de:32:1 100:12e:1:2 132:136:1:2 139:147:1:2 14a:176:1:2 " ++
  "178:178:-121:1 179:17d:1:2 181:181:210:1 182:184:1:2 186:186:206:1 187:187:1:1 " ++
  "189:18a:205:1 18b:18b:1:1 18e:18e:79:1 18f:18f:202:1 190:190:203:1 191:191:1:1 " ++
  "193:193:205:1 194:194:207:1 196:196:211:1 197:197:209:1 198:198:1:1 19c:19c:211:1 " ++
  "19d:19d:213:1 19f:19f:214:1 1a0:1a4:1:2 1a6:1a6:218:1 1a7:1a7:1:1 1a9:1a9:218:1 " ++
  "1ac:1ac:1:1 1ae:1ae:218:1 1af:1af:1:1 1b1:1b2:217:1 1b3:1b5:1:2 1b7:1b7:219:1 " ++
  "1b8:1b8:1:1 1bc:1bc:1:1 1c4:1c4:2:1 1c5:1c5:1:1 1c7:1c7:2:1 1c8:1c8:1:1 1ca:1ca:2:1 " ++
  "1cb:1db:1:2 1de:1ee:1:2 1f1:1f1:2:1 1f2:1f4:1:2 1f6:1f6:-97:1 1f7:1f7:-56:1 " ++
  "1f8:21e:1:2 220:220:-130:1 222:232:1:2 23a:23a:10795:1 23b:23b:1:1 23d:23d:-163:1 " ++
  "23e:23e:10792:1 241:241:1:1 243:243:-195:1 244:244:69:1 245:245:71:1 246:24e:1:2 " ++
  "370:372:1:2 376:376:1:1 37f:37f:116:1 386:386:38:1 388:38a:37:1 38c:38c:64:1 " ++
  "38e:38f:63:1 391:3a1:32:1 3a3:3ab:32:1 3cf:3cf:8:1 3d8:3ee:1:2 3f4:3f4:-60:1 " ++
  "3f7:3f7:1:1 3f9:3f9:-7:1 3fa:3fa:1:1 3fd:3ff:-130:1 400:40f:80:1 410:42f:32:1 " ++
  "460:480:1:2 48a:4be:1:2 4c0:4c0:15:1 4c1:4cd:1:2 4d0:52e:1:2 531:556:48:1 " ++
  "10a0:10c5:7264:1 10c7:10c7:7264:1 10cd:10cd:7264:1 13a0:13ef:38864:1 13f0:13f5:8:1 " ++
  "1c90:1cba:-3008:1 1cbd:1cbf:-3008:1 1e00:1e94:1:2 1e9e:1e9e:-7615:1 1ea0:1efe:1:2 " ++
  "1f08:1f0f:-8:1 1f18:1f1d:-8:1 1f28:1f2f:-8:1 1f38:1f3f:-8:1 1f48:1f4d:-8:1 " ++
  "1f59:1f5f:-8:2 1f68:1f6f:-8:1 1f88:1f8f:-8:1 1f98:1f9f:-8:1 1fa8:1faf:-8:1 " ++
  "1fb8:1fb9:-8:1 1fba:1fbb:-74:1 1fbc:1fbc:-9:1 1fc8:1fcb:-86:1 1fcc:1fcc:-9:1 " ++
  "1fd8:1fd9:-8:1 1fda:1fdb:-100:1 1fe8:1fe9:-8:1 1fea:1feb:-112:1 1fec:1fec:-7:1 " ++
  "1ff8:1ff9:-128:1 1ffa:1ffb:-126:1 1ffc:1ffc:-9:1 2126:2126:-7517:1 212a:212a:-8383:1 " ++
  "212b:212b:-8262:1 2132:2132:28:1 2160:216f:16:1 2183:2183:1:1 24b6:24cf:26:1 " ++
  "2c00:2c2f:48:1 2c60:2c60:1:1 2c62:2c62:-10743:1 2c63:2c63:-3814:1 2c64:2c64:-10727:1 " ++
  "2c67:2c6b:1:2 2c6d:2c6d:-10780:1 2c6e:2c6e:-10749:1 2c6f:2c6f:-10783:1 " ++
  "2c70:2c70:-10782:1 2c72:2c72:1:1 2c75:2c75:1:1 2c7e:2c7f:-10815:1 2c80:2ce2:1:2 " ++
  "2ceb:2ced:1:2 2cf2:2cf2:1:1 a640:a66c:1:2 a680:a69a:1:2 a722:a72e:1:2 a732:a76e:1:2 " ++
  "a779:a77b:1:2 a77d:a77d:-35332:1 a77e:a786:1:2 a78b:a78b:1:1 a78d:a78d:-42280:1 " ++
  "a790:a792:1:2 a796:a7a8:1:2 a7aa:a7aa:-42308:1 a7ab:a7ab:-42319:1 a7ac:a7ac:-42315:1 " ++
  "a7ad:a7ad:-42305:1 a7ae:a7ae:-42308:1 a7b0:a7b0:-42258:1 a7b1:a7b1:-42282:1 " ++
  "a7b2:a7b2:-42261:1 a7b3:a7b3:928:1 a7b4:a7c2:1:2 a7c4:a7c4:-48:1 a7c5:a7c5:-42307:1 " ++
  "a7c6:a7c6:-35384:1 a7c7:a7c9:1:2 a7d0:a7d0:1:1 a7d6:a7d8:1:2 a7f5:a7f5:1:1 " ++
  "ff21:ff3a:32:1 10400:10427:40:1 104b0:104d3:40:1 10570:1057a:39:1 1057c:1058a:39:1 " ++
  "1058c:10592:39:1 10594:10595:39:1 10c80:10cb2:64:1 118a0:118bf:32:1 16e40:16e5f:32:1 " ++
  "1e900:1e921:34:1"

/-- Upper-casing runs, packed. -/
def upperPacked : String :=
  "61:7a:-32:1 b5:b5:743:1 e0:f6:-32:1 f8:fe:-32:1 ff:ff:121:1 101:12f:-1:2 " ++
  "131:131:-232:1 133:137:-1:2 13a:148:-1:2 14b:177:-1:2 17a:17e:-1:2 17f:17f:-300:1 " ++
  "180:180:195:1 183:185:-1:2 188:188:-1:1 18c:18c:-1:1 192:192:-1:1 195:195:97:1 " ++
  "199:199:-1:1 19a:19a:163:1 19e:19e:130:1 1a1:1a5:-1:2 1a8:1a8:-1:1 1ad:1ad:-1:1 " ++
  "1b0:1b0:-1:1 1b4:1b6:-1:2 1b9:1b9:-1:1 1bd:1bd:-1:1 1bf:1bf:56:1 1c5:1c5:-1:1 " ++
  "1c6:1c6:-2:1 1c8:1c8:-1:1 1c9:1c9:-2:1 1cb:1cb:-1:1 1cc:1cc:-2:1 1ce:1dc:-1:2 " ++
  "1dd:1dd:-79:1 1df:1ef:-1:2 1f2:1f2:-1:1 1f3:1f3:-2:1 1f5:1f5:-1:1 1f9:21f:-1:2 " ++
  "223:233:-1:2 23c:23c:-1:1 23f:240:10815:1 242:242:-1:1 247:24f:-1:2 250:250:10783:1 " ++
  "251:251:10780:1 252:252:10782:1 253:253:-210:1 254:254:-206:1 256:257:-205:1 " ++
  "259:259:-202:1 25b:25b:-203:1 25c:25c:42319:1 260:260:-205:1 261:261:42315:1 " ++
  "263:263:-207:1 265:265:42280:1 266:266:42308:1 268:268:-209:1 269:269:-211:1 " ++
  "26a:26a:42308:1 26b:26b:10743:1 26c:26c:42305:1 26f:26f:-211:1 271:271:10749:1 " ++
  "272:272:-213:1 275:275:-214:1 27d:27d:10727:1 280:280:-218:1 282:282:42307:1 " ++
  "283:283:-218:1 287:287:42282:1 288:288:-218:1 289:289:-69:1 28a:28b:-217:1 " ++
  "28c:28c:-71:1 292:292:-219:1 29d:29d:42261:1 29e:29e:42258:1 345:345:84:1 371:373:-1:2 " ++
  "377:377:-1:1 37b:37d:130:1 3ac:3ac:-38:1 3ad:3af:-37:1 3b1:3c1:-32:1 3c2:3c2:-31:1 " ++
  "3c3:3cb:-32:1 3cc:3cc:-64:1 3cd:3ce:-63:1 3d0:3d0:-62:1 3d1:3d1:-57:1 3d5:3d5:-47:1 " ++
  "3d6:3d6:-54:1 3d7:3d7:-8:1 3d9:3ef:-1:2 3f0:3f0:-86:1 3f1:3f1:-80:1 3f2:3f2:7:1 " ++
  "3f3:3f3:-116:1 3f5:3f5:-96:1 3f8:3f8:-1:1 3fb:3fb:-1:1 430:44f:-32:1 450:45f:-80:1 " ++
  "461:481:-1:2 48b:4bf:-1:2 4c2:4ce:-1:2 4cf:4cf:-15:1 4d1:52f:-1:2 561:586:-48:1 " ++
  "10d0:10fa:3008:1 10fd:10ff:3008:1 13f8:13fd:-8:1 1c80:1c80:-6254:1 1c81:1c81:-6253:1 " ++
  "1c82:1c82:-6244:1 1c83:1c84:-6242:1 1c85:1c85:-6243:1 1c86:1c86:-6236:1 " ++
  "1c87:1c87:-6181:1 1c88:1c88:35266:1 1d79:1d79:35332:1 1d7d:1d7d:3814:1 " ++
  "1d8e:1d8e:35384:1 1e01:1e95:-1:2 1e9b:1e9b:-59:1 1ea1:1eff:-1:2 1f00:1f07:8:1 " ++
  "1f10:1f15:8:1 1f20:1f27:8:1 1f30:1f37:8:1 1f40:1f45:8:1 1f51:1f57:8:2 1f60:1f67:8:1 " ++
  "1f70:1f71:74:1 1f72:1f75:86:1 1f76:1f77:100:1 1f78:1f79:128:1 1f7a:1f7b:112:1 " ++
  "1f7c:1f7d:126:1 1fb0:1fb1:8:1 1fbe:1fbe:-7205:1 1fd0:1fd1:8:1 1fe0:1fe1:8:1 " ++
  "1fe5:1fe5:7:1 214e:214e:-28:1 2170:217f:-16:1 2184:2184:-1:1 24d0:24e9:-26:1 " ++
  "2c30:2c5f:-48:1 2c61:2c61:-1:1 2c65:2c65:-10795:1 2c66:2c66:-10792:1 2c68:2c6c:-1:2 " ++
  "2c73:2c73:-1:1 2c76:2c76:-1:1 2c81:2ce3:-1:2 2cec:2cee:-1:2 2cf3:2cf3:-1:1 " ++
  "2d00:2d25:-7264:1 2d27:2d27:-7264:1 2d2d:2d2d:-7264:1 a641:a66d:-1:2 a681:a69b:-1:2 " ++
  "a723:a72f:-1:2 a733:a76f:-1:2 a77a:a77c:-1:2 a77f:a787:-1:2 a78c:a78c:-1:1 " ++
  "a791:a793:-1:2 a794:a794:48:1 a797:a7a9:-1:2 a7b5:a7c3:-1:2 a7c8:a7ca:-1:2 " ++
  "a7d1:a7d1:-1:1 a7d7:a7d9:-1:2 a7f6:a7f6:-1:1 ab53:ab53:-928:1 ab70:abbf:-38864:1 " ++
  "ff41:ff5a:-32:1 10428:1044f:-40:1 104d8:104fb:-40:1 10597:105a1:-39:1 " ++
  "105a3:105b1:-39:1 105b3:105b9:-39:1 105bb:105bc:-39:1 10cc0:10cf2:-64:1 " ++
  "118c0:118df:-32:1 16e60:16e7f:-32:1 1e922:1e943:-34:1"

def lowerLongPacked : String := "130:69.307"

/-- The long upper-case mappings, packed. -/
def upperLongPacked : String :=
  "df:53.53 149:2bc.4e 1f0:4a.30c 390:399.308.301 3b0:3a5.308.301 587:535.552 1e96:48.331 " ++
  "1e97:54.308 1e98:57.30a 1e99:59.30a 1e9a:41.2be 1f50:3a5.313 1f52:3a5.313.300 " ++
  "1f54:3a5.313.301 1f56:3a5.313.342 1f80:1f08.399 1f81:1f09.399 1f82:1f0a.399 " ++
  "1f83:1f0b.399 1f84:1f0c.399 1f85:1f0d.399 1f86:1f0e.399 1f87:1f0f.399 1f88:1f08.399 " ++
  "1f89:1f09.399 1f8a:1f0a.399 1f8b:1f0b.399 1f8c:1f0c.399 1f8d:1f0d.399 1f8e:1f0e.399 " ++
  "1f8f:1f0f.399 1f90:1f28.399 1f91:1f29.399 1f92:1f2a.399 1f93:1f2b.399 1f94:1f2c.399 " ++
  "1f95:1f2d.399 1f96:1f2e.399 1f97:1f2f.399 1f98:1f28.399 1f99:1f29.399 1f9a:1f2a.399 " ++
  "1f9b:1f2b.399 1f9c:1f2c.399 1f9d:1f2d.399 1f9e:1f2e.399 1f9f:1f2f.399 1fa0:1f68.399 " ++
  "1fa1:1f69.399 1fa2:1f6a.399 1fa3:1f6b.399 1fa4:1f6c.399 1fa5:1f6d.399 1fa6:1f6e.399 " ++
  "1fa7:1f6f.399 1fa8:1f68.399 1fa9:1f69.399 1faa:1f6a.399 1fab:1f6b.399 1fac:1f6c.399 " ++
  "1fad:1f6d.399 1fae:1f6e.399 1faf:1f6f.399 1fb2:1fba.399 1fb3:391.399 1fb4:386.399 " ++
  "1fb6:391.342 1fb7:391.342.399 1fbc:391.399 1fc2:1fca.399 1fc3:397.399 1fc4:389.399 " ++
  "1fc6:397.342 1fc7:397.342.399 1fcc:397.399 1fd2:399.308.300 1fd3:399.308.301 " ++
  "1fd6:399.342 1fd7:399.308.342 1fe2:3a5.308.300 1fe3:3a5.308.301 1fe4:3a1.313 " ++
  "1fe6:3a5.342 1fe7:3a5.308.342 1ff2:1ffa.399 1ff3:3a9.399 1ff4:38f.399 1ff6:3a9.342 " ++
  "1ff7:3a9.342.399 1ffc:3a9.399 fb00:46.46 fb01:46.49 fb02:46.4c fb03:46.46.49 " ++
  "fb04:46.46.4c fb05:53.54 fb06:53.54 fb13:544.546 fb14:544.535 fb15:544.53b " ++
  "fb16:54e.546 fb17:544.53d"

def lowerRuns : Array CaseRun := ((lowerPacked.toList.splitOn ' ').map readRun).toArray

def upperRuns : Array CaseRun := ((upperPacked.toList.splitOn ' ').map readRun).toArray

def lowerLong : List (Nat × List Nat) := (lowerLongPacked.toList.splitOn ' ').map readLong

def upperLong : List (Nat × List Nat) := (upperLongPacked.toList.splitOn ' ').map readLong

/-- The run among `rs[lo]` to `rs[hi - 1]` whose range holds `n`, by bisection. -/
def findRun (rs : Array CaseRun) (n : Nat) (lo hi : Nat) : Option CaseRun :=
  if _h : lo < hi then
    let mid := (lo + hi) / 2
    match rs[mid]? with
    | none => none
    | some r =>
      if n < r.lo then findRun rs n lo mid
      else if r.hi < n then findRun rs n (mid + 1) hi
      else some r
  else none
termination_by hi - lo

/-- The image of a character under a case mapping given by its runs and long mappings. -/
def mapChar (runs : Array CaseRun) (long : List (Nat × List Nat)) (c : Char) : List Char :=
  let n := c.toNat
  match long.lookup n with
  | some ms => ms.map Char.ofNat
  | none =>
    match findRun runs n 0 runs.size with
    | some r =>
      if (n - r.lo) % r.step = 0 then [Char.ofNat (n + r.delta).toNat] else [c]
    | none => [c]

def lowerChar (c : Char) : List Char :=
  if 'A' ≤ c && c ≤ 'Z' then [Char.ofNat (c.toNat + 32)]
  else if c.toNat < 0x80 then [c]
  else mapChar lowerRuns lowerLong c

def upperChar (c : Char) : List Char :=
  if 'a' ≤ c && c ≤ 'z' then [Char.ofNat (c.toNat - 32)]
  else if c.toNat < 0x80 then [c]
  else mapChar upperRuns upperLong c

/-- Whether a capital sigma between `before` (reversed) and `after` takes its final form: the
first character before it that is not case-ignorable is cased, and the first after it is not. -/
def finalSigma (before after : List Char) : Bool :=
  (match before.dropWhile isCaseIgnorable with
    | c :: _ => isCased c
    | [] => false) &&
  (match after.dropWhile isCaseIgnorable with
    | c :: _ => !isCased c
    | [] => true)

/-- Lower-cases the characters `after`, those before them given in reverse. -/
def lowerFrom (before : List Char) : List Char → List Char
  | [] => []
  | c :: after =>
    let image := if c = 'Σ' then [if finalSigma before after then 'ς' else 'σ'] else lowerChar c
    image ++ lowerFrom (c :: before) after

/-- The lower-case form of a text. -/
def lower (s : String) : String := String.ofList (lowerFrom [] s.toList)

/-- The upper-case form of a text. -/
def upper (s : String) : String := String.ofList (s.toList.flatMap upperChar)

theorem lowerFrom_eq_flatMap (before : List Char) {cs : List Char} (h : 'Σ' ∉ cs) :
    lowerFrom before cs = cs.flatMap lowerChar := by
  induction cs generalizing before with
  | nil => rfl
  | cons c cs ih =>
    simp only [List.mem_cons, not_or] at h
    simp only [lowerFrom, List.flatMap_cons, if_neg (Ne.symm h.1), ih _ h.2]

theorem lowerChar_ascii {c : Char} (h1 : 'A' ≤ c) (h2 : c ≤ 'Z') :
    lowerChar c = [Char.ofNat (c.toNat + 32)] := by
  simp [lowerChar, h1, h2]

end Phrasebook.Text
