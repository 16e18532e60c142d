import CompileSession.Domain.Mark

/-!
# Composed characters

A letter and its marks can be written one after another or, for many letters, as one character.
`composed` brings a text into the form in which as many as possible are one character and the other
marks stand in the order of their classes, so that two spellings of one text become the same. It
knows the characters that a domain name may hold, and the syllables of Korean by their numbers. The
table is that of Unicode 17.
-/

namespace CompileSession.Domain

/-- For the number of a character that joins one before it: the characters that it joins, and what
becomes of each. -/
def compositions : List (Nat × String × String) :=
  [
    (0x300, "aeiouünеиēōwâăêôơưyἀἁἐἑἠἡἰἱὀὁὐὑὠὡαεηιου", "àèìòùǜǹѐѝḕṑẁầằềồờừỳἂἃἒἓἢἣἲἳὂὃὒὓὢὣὰὲὴὶὸὺ"),
    (0x300, "ωϊϋ", "ὼῒῢ"),
    (0x301, "aeiouyclnrszügåæøϊαεηιϋουωгкçēïkmõōpũwâ", "áéíóúýćĺńŕśźǘǵǻǽǿΐάέήίΰόύώѓќḉḗḯḱḿṍṓṕṹẃấ"),
    (0x301, "ăêôơưἀἁἐἑἠἡἰἱὀὁὐὑὠὡ", "ắếốớứἄἅἔἕἤἥἴἵὄὅὔὕὤὥ"),
    (0x302, "aeioucghjswyzạẹọ", "âêîôûĉĝĥĵŝŵŷẑậệộ"), (0x303, "anoiuvâăeêôơưy", "ãñõĩũṽẫẵẽễỗỡữỹ"),
    (0x304, "aeiouüäȧæǫöõȯyиуgḷṛαιυ", "āēīōūǖǟǡǣǭȫȭȱȳӣӯḡḹṝᾱῑῡ"),
    (0x306, "aegiouиужаеȩạαιυ", "ăĕğĭŏŭйўӂӑӗḝặᾰῐῠ"),
    (0x307, "cegzaobdfhmnprsśšṣtwxy𐗒𐗚", "ċėġżȧȯḃḋḟḣṁṅṗṙṡṥṧṩṫẇẋẏ𐗉𐗤"),
    (0x308, "aeiouyιυеіаәжзиоөэучыhõūwxt", "äëïöüÿϊϋёїӓӛӝӟӥӧӫӭӱӵӹḧṏṻẅẍẗ"),
    (0x309, "aâăeêioôơuưy", "ảẩẳẻểỉỏổởủửỷ"), (0x30a, "auwy", "åůẘẙ"), (0x30b, "ouу", "őűӳ"),
    (0x30c, "cdelnrstzaiouügkʒjh", "čďěľňřšťžǎǐǒǔǚǧǩǯǰȟ"), (0x30f, "aeioruѵ", "ȁȅȉȍȑȕѷ"),
    (0x311, "aeioru", "ȃȇȋȏȓȗ"), (0x313, "αεηιουωρ", "ἀἐἠἰὀὐὠῤ"), (0x314, "αεηιουωρ", "ἁἑἡἱὁὑὡῥ"),
    (0x31b, "ou", "ơư"), (0x323, "bdhklmnrstvwzaeioơuưy", "ḅḍḥḳḷṃṇṛṣṭṿẉẓạẹịọợụựỵ"),
    (0x324, "u", "ṳ"), (0x325, "a", "ḁ"), (0x326, "st", "șț"),
    (0x327, "cgklnrstedh", "çģķļņŗşţȩḑḩ"), (0x328, "aeiuo", "ąęįųǫ"), (0x32d, "delntu", "ḓḙḽṋṱṷ"),
    (0x32e, "h", "ḫ"), (0x330, "eiu", "ḛḭṵ"), (0x331, "bdklnrtzh", "ḇḏḵḻṉṟṯẕẖ"),
    (0x338, "←→↔⇐⇔⇒∃∈∋∣∥∼≃≅≈=≡≍<>≤≥≲≳≶≷≺≻⊂⊃⊆⊇⊢⊨⊩⊫≼≽⊑", "↚↛↮⇍⇎⇏∄∉∌∤∦≁≄≇≉≠≢≭≮≯≰≱≴≵≸≹⊀⊁⊄⊅⊈⊉⊬⊭⊮⊯⋠⋡⋢"),
    (0x338, "⊒⊲⊳⊴⊵", "⋣⋪⋫⋬⋭"), (0x342, "ἀἁἠἡἰἱὐὑὠὡαηιϊυϋω", "ἆἇἦἧἶἷὖὗὦὧᾶῆῖῗῦῧῶ"),
    (0x653, "\u0627", "\u0622"),
    (0x654, "\u0627\u0648\u064a\u06d5\u06c1\u06d2", "\u0623\u0624\u0626\u06c0\u06c2\u06d3"),
    (0x655, "\u0627", "\u0625"), (0x93c, "नरळ", "ऩऱऴ"), (0x9be, "\u09c7", "\u09cb"),
    (0x9d7, "\u09c7", "\u09cc"), (0xb3e, "\u0b47", "\u0b4b"), (0xb56, "\u0b47", "\u0b48"),
    (0xb57, "\u0b47", "\u0b4c"), (0xbbe, "\u0bc6\u0bc7", "\u0bca\u0bcb"),
    (0xbd7, "ஒ\u0bc6", "ஔ\u0bcc"), (0xc56, "\u0c46", "\u0c48"), (0xcc2, "\u0cc6", "\u0cca"),
    (0xcd5, "\u0cbf\u0cc6\u0cca", "\u0cc0\u0cc7\u0ccb"), (0xcd6, "\u0cc6", "\u0cc8"),
    (0xd3e, "\u0d46\u0d47", "\u0d4a\u0d4b"), (0xd57, "\u0d46", "\u0d4c"),
    (0xdca, "\u0dd9\u0ddc", "\u0dda\u0ddd"), (0xdcf, "\u0dd9", "\u0ddc"),
    (0xddf, "\u0dd9", "\u0dde"), (0x102e, "ဥ", "ဦ"),
    (0x1b35, "ᬅᬇᬉᬋᬍᬑ\u1b3a\u1b3c\u1b3e\u1b3f\u1b42", "ᬆᬈᬊᬌᬎᬒ\u1b3b\u1b3d\u1b40\u1b41\u1b43"),
    (0x3099, "かきくけこさしすせそたちつてとはひふへほうゝカキクケコサシスセソタチツテトハヒ", "がぎぐげござじずぜぞだぢづでどばびぶべぼゔゞガギグゲゴザジズゼゾダヂヅデドバビ"),
    (0x3099, "フヘホウワヰヱヲヽ", "ブベボヴヷヸヹヺヾ"), (0x309a, "はひふへほハヒフヘホ", "ぱぴぷぺぽパピプペポ"),
    (0x110ba, "𑂙𑂛𑂥", "𑂚𑂜𑂫"), (0x11127, "𑄱𑄲", "𑄮𑄯"), (0x1133e, "𑍇", "𑍋"), (0x11357, "𑍇", "𑍌"),
    (0x113b8, "𑏂", "𑏇"), (0x113bb, "𑎄", "𑎅"), (0x113c2, "𑎎", "𑎎𑏅"), (0x113c9, "𑎂𑎐𑏂", "𑎃𑎑𑏈"),
    (0x114b0, "𑒹", "𑒼"), (0x114ba, "𑒹", "𑒻"), (0x114bd, "𑒹", "𑒾"), (0x115af, "𑖸𑖹", "𑖺𑖻"),
    (0x11930, "𑤵", "𑤸"), (0x1611e, "𖄞", "𖄡"), (0x1611f, "𖄢𖄡𖄢", "𖄣𖄤𖄦𖄧"), (0x16120, "𖄡𖄞", "𖄥𖄨"),
    (0x16129, "𖄞", "𖄢"), (0x16d67, "𖵧𖵣𖵩", "𖵨𖵩𖵪")
  ]

/-- The character at the place of `c` in a row, if it has one there. -/
def beside (c : Char) : List Char → List Char → Option Char
  | d :: row, e :: other => if c = d then some e else beside c row other
  | _, _ => none

/-! ## Korean syllables -/

/-- The first numbers of syllables, of their initial, middle and final letters, where the final one
counts from the number of no letter. -/
def syllables : Nat × Nat × Nat × Nat := (0xac00, 0x1100, 0x1161, 0x11a7)

/-- The letters of a syllable. -/
def syllableLetters? (c : Char) : Option (List Char) :=
  let (first, initial, middle, final) := syllables
  let n := c.toNat - first
  if first ≤ c.toNat ∧ n < 19 * 21 * 28 then
    let two := [Char.ofNat (initial + n / (21 * 28)), Char.ofNat (middle + n / 28 % 21)]
    some (if n % 28 = 0 then two else two ++ [Char.ofNat (final + n % 28)])
  else none

/-- The syllable that two letters make, or a syllable and its final letter. -/
def syllable? (a b : Char) : Option Char :=
  let (first, initial, middle, final) := syllables
  let x := a.toNat
  let y := b.toNat
  if initial ≤ x ∧ x < initial + 19 ∧ middle ≤ y ∧ y < middle + 21 then
    some (Char.ofNat (first + ((x - initial) * 21 + (y - middle)) * 28))
  else if first ≤ x ∧ x < first + 19 * 21 * 28 ∧ (x - first) % 28 = 0
      ∧ final < y ∧ y < final + 28 then
    some (Char.ofNat (x + (y - final)))
  else none

/-! ## Taking apart -/

/-- The two characters that make up `c`. -/
def halves? (c : Char) : Option (Char × Char) :=
  compositions.findSome? fun (second, firsts, wholes) =>
    (beside c wholes.toList firsts.toList).map (·, Char.ofNat second)

/-- The characters that make up `c`, taken apart `depth` times. -/
def partsWithin : (depth : Nat) → Char → List Char
  | 0, c => [c]
  | depth + 1, c =>
    match halves? c with
    | some (first, second) => partsWithin depth first ++ [second]
    | none => [c]

/-- The characters that make up `c`. None is made up in more than three steps. -/
def parts (c : Char) : List Char := (syllableLetters? c).getD (partsWithin 3 c)

/-- Puts `c` after the characters of `before`, last one first, but in front of those marks at their
end whose class is greater. -/
def place (before : List Char) (c : Char) : List Char :=
  match before with
  | [] => [c]
  | d :: rest =>
    if 0 < markClass c ∧ markClass c < markClass d then d :: place rest c else c :: d :: rest

/-- The characters of a text taken apart, with the marks in the order of their classes. -/
def decomposed (cs : List Char) : List Char := ((cs.flatMap parts).foldl place []).reverse

/-! ## Joining -/

/-- What becomes of `a` when `b` joins it. -/
def joined? (a b : Char) : Option Char :=
  match syllable? a b with
  | some c => some c
  | none =>
    compositions.findSome? fun (second, firsts, wholes) =>
      if second = b.toNat then beside a firsts.toList wholes.toList else none

/-- Whether nothing in `between`, last one first, keeps `c` from the character in front. -/
def reaches (between : List Char) (c : Char) : Bool :=
  match between with
  | [] => true
  | d :: _ => markClass d < markClass c

/-- Joins to `first`, which the marks of `between` follow, last one first, what may join it, and
goes on with the next character that is no mark. -/
def joinFrom (first : Char) (between : List Char) : List Char → List Char
  | [] => first :: between.reverse
  | c :: rest =>
    match if reaches between c then joined? first c else none with
    | some whole => joinFrom whole between rest
    | none =>
      if markClass c = 0 then first :: between.reverse ++ joinFrom c [] rest
      else joinFrom first (c :: between) rest

/-- The composed form of a text. -/
def composed (cs : List Char) : List Char :=
  match decomposed cs with
  | [] => []
  | c :: rest => joinFrom c [] rest

end CompileSession.Domain
