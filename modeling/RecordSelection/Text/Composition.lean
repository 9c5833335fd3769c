/-!
Characters that stand for two: a character and a mark after it. A row holds the mark, some
characters that take it, and in the same order what they become. Syllables of Hangul are
composed by arithmetic.
-/

set_option autoImplicit false

namespace RecordSelection.Text

def compositions : List (Nat × String × String) :=
  [(0x300, "AEIOUaeiouÜüNnЕИеиĒēŌōWw",
    "ÀÈÌÒÙàèìòùǛǜǸǹЀЍѐѝḔḕṐṑẀẁ"),
   (0x300, "ÂâĂăÊêÔôƠơƯưYyἀἁἈἉἐἑἘἙἠἡ",
    "ẦầẰằỀềỒồỜờỪừỲỳἂἃἊἋἒἓἚἛἢἣ"),
   (0x300, "ἨἩἰἱἸἹὀὁὈὉὐὑὙὠὡὨὩαεηιουω",
    "ἪἫἲἳἺἻὂὃὊὋὒὓὛὢὣὪὫὰὲὴὶὸὺὼ"),
   (0x300, "ΑΕΗ᾿ϊΙ῾ϋΥ¨ΟΩ",
    "ᾺῈῊ῍ῒῚ῝ῢῪ῭ῸῺ"),
   (0x301, "AEIOUYaeiouyCcLlNnRrSsZz",
    "ÁÉÍÓÚÝáéíóúýĆćĹĺŃńŔŕŚśŹź"),
   (0x301, "ÜüGgÅåÆæØø¨ΑΕΗΙΟΥΩϊαεηιϋ",
    "ǗǘǴǵǺǻǼǽǾǿ΅ΆΈΉΊΌΎΏΐάέήίΰ"),
   (0x301, "ουωϒГКгкÇçĒēÏïKkMmÕõŌōPp",
    "όύώϓЃЌѓќḈḉḖḗḮḯḰḱḾḿṌṍṒṓṔṕ"),
   (0x301, "ŨũWwÂâĂăÊêÔôƠơƯưἀἁἈἉἐἑἘἙ",
    "ṸṹẂẃẤấẮắẾếỐốỚớỨứἄἅἌἍἔἕἜἝ"),
   (0x301, "ἠἡἨἩἰἱἸἹὀὁὈὉὐὑὙὠὡὨὩ᾿῾",
    "ἤἥἬἭἴἵἼἽὄὅὌὍὔὕὝὤὥὬὭ῎῞"),
   (0x302, "AEIOUaeiouCcGgHhJjSsWwYy",
    "ÂÊÎÔÛâêîôûĈĉĜĝĤĥĴĵŜŝŴŵŶŷ"),
   (0x302, "ZzẠạẸẹỌọ",
    "ẐẑẬậỆệỘộ"),
   (0x303, "ANOanoIiUuVvÂâĂăEeÊêÔôƠơ",
    "ÃÑÕãñõĨĩŨũṼṽẪẫẴẵẼẽỄễỖỗỠỡ"),
   (0x303, "ƯưYy",
    "ỮữỸỹ"),
   (0x304, "AaEeIiOoUuÜüÄäȦȧÆæǪǫÖöÕõ",
    "ĀāĒēĪīŌōŪūǕǖǞǟǠǡǢǣǬǭȪȫȬȭ"),
   (0x304, "ȮȯYyИиУуGgḶḷṚṛαΑιΙυΥ",
    "ȰȱȲȳӢӣӮӯḠḡḸḹṜṝᾱᾹῑῙῡῩ"),
   (0x306, "AaEeGgIiOoUuУИиуЖжАаЕеȨȩ",
    "ĂăĔĕĞğĬĭŎŏŬŭЎЙйўӁӂӐӑӖӗḜḝ"),
   (0x306, "ẠạαΑιΙυΥ",
    "ẶặᾰᾸῐῘῠῨ"),
   (0x307, "CcEeGgIZzAaOoBbDdFfHhMmN",
    "ĊċĖėĠġİŻżȦȧȮȯḂḃḊḋḞḟḢḣṀṁṄ"),
   (0x307, "nPpRrSsŚśŠšṢṣTtWwXxYyſ𐗒𐗚",
    "ṅṖṗṘṙṠṡṤṥṦṧṨṩṪṫẆẇẊẋẎẏẛ𐗉𐗤"),
   (0x308, "AEIOUaeiouyYΙΥιυϒЕІеіАаӘ",
    "ÄËÏÖÜäëïöüÿŸΪΫϊϋϔЁЇёїӒӓӚ"),
   (0x308, "әЖжЗзИиОоӨөЭэУуЧчЫыHhÕõŪ",
    "ӛӜӝӞӟӤӥӦӧӪӫӬӭӰӱӴӵӸӹḦḧṎṏṺ"),
   (0x308, "ūWwXxt",
    "ṻẄẅẌẍẗ"),
   (0x309, "AaÂâĂăEeÊêIiOoÔôƠơUuƯưYy",
    "ẢảẨẩẲẳẺẻỂểỈỉỎỏỔổỞởỦủỬửỶỷ"),
   (0x30a, "AaUuwy",
    "ÅåŮůẘẙ"),
   (0x30b, "OoUuУу",
    "ŐőŰűӲӳ"),
   (0x30c, "CcDdEeLlNnRrSsTtZzAaIiOo",
    "ČčĎďĚěĽľŇňŘřŠšŤťŽžǍǎǏǐǑǒ"),
   (0x30c, "UuÜüGgKkƷʒjHh",
    "ǓǔǙǚǦǧǨǩǮǯǰȞȟ"),
   (0x30f, "AaEeIiOoRrUuѴѵ",
    "ȀȁȄȅȈȉȌȍȐȑȔȕѶѷ"),
   (0x311, "AaEeIiOoRrUu",
    "ȂȃȆȇȊȋȎȏȒȓȖȗ"),
   (0x313, "αΑεΕηΗιΙοΟυωΩρ",
    "ἀἈἐἘἠἨἰἸὀὈὐὠὨῤ"),
   (0x314, "αΑεΕηΗιΙοΟυΥωΩρΡ",
    "ἁἉἑἙἡἩἱἹὁὉὑὙὡὩῥῬ"),
   (0x31b, "OoUu",
    "ƠơƯư"),
   (0x323, "BbDdHhKkLlMmNnRrSsTtVvWw",
    "ḄḅḌḍḤḥḲḳḶḷṂṃṆṇṚṛṢṣṬṭṾṿẈẉ"),
   (0x323, "ZzAaEeIiOoƠơUuƯưYy",
    "ẒẓẠạẸẹỊịỌọỢợỤụỰựỴỵ"),
   (0x324, "Uu",
    "Ṳṳ"),
   (0x325, "Aa",
    "Ḁḁ"),
   (0x326, "SsTt",
    "ȘșȚț"),
   (0x327, "CcGgKkLlNnRrSsTtEeDdHh",
    "ÇçĢģĶķĻļŅņŖŗŞşŢţȨȩḐḑḨḩ"),
   (0x328, "AaEeIiUuOo",
    "ĄąĘęĮįŲųǪǫ"),
   (0x32d, "DdEeLlNnTtUu",
    "ḒḓḘḙḼḽṊṋṰṱṶṷ"),
   (0x32e, "Hh",
    "Ḫḫ"),
   (0x330, "EeIiUu",
    "ḚḛḬḭṴṵ"),
   (0x331, "BbDdKkLlNnRrTtZzh",
    "ḆḇḎḏḴḵḺḻṈṉṞṟṮṯẔẕẖ"),
   (0x338, "←→↔⇐⇔⇒∃∈∋∣∥∼≃≅≈=≡≍<>≤≥≲≳",
    "↚↛↮⇍⇎⇏∄∉∌∤∦≁≄≇≉≠≢≭≮≯≰≱≴≵"),
   (0x338, "≶≷≺≻⊂⊃⊆⊇⊢⊨⊩⊫≼≽⊑⊒⊲⊳⊴⊵",
    "≸≹⊀⊁⊄⊅⊈⊉⊬⊭⊮⊯⋠⋡⋢⋣⋪⋫⋬⋭"),
   (0x342, "ἀἁἈἉἠἡἨἩἰἱἸἹὐὑὙὠὡὨὩα¨η᾿ι",
    "ἆἇἎἏἦἧἮἯἶἷἾἿὖὗὟὦὧὮὯᾶ῁ῆ῏ῖ"),
   (0x342, "ϊ῾υϋω",
    "ῗ῟ῦῧῶ"),
   (0x345, "ἀἁἂἃἄἅἆἇἈἉἊἋἌἍἎἏἠἡἢἣἤἥἦἧ",
    "ᾀᾁᾂᾃᾄᾅᾆᾇᾈᾉᾊᾋᾌᾍᾎᾏᾐᾑᾒᾓᾔᾕᾖᾗ"),
   (0x345, "ἨἩἪἫἬἭἮἯὠὡὢὣὤὥὦὧὨὩὪὫὬὭὮὯ",
    "ᾘᾙᾚᾛᾜᾝᾞᾟᾠᾡᾢᾣᾤᾥᾦᾧᾨᾩᾪᾫᾬᾭᾮᾯ"),
   (0x345, "ὰαάᾶΑὴηήῆΗὼωώῶΩ",
    "ᾲᾳᾴᾷᾼῂῃῄῇῌῲῳῴῷῼ"),
   (0x653, "\u0627",
    "\u0622"),
   (0x654, "\u0627\u0648\u064a\u06d5\u06c1\u06d2",
    "\u0623\u0624\u0626\u06c0\u06c2\u06d3"),
   (0x655, "\u0627",
    "\u0625"),
   (0x93c, "नरळ",
    "ऩऱऴ"),
   (0x9be, "\u09c7",
    "\u09cb"),
   (0x9d7, "\u09c7",
    "\u09cc"),
   (0xb3e, "\u0b47",
    "\u0b4b"),
   (0xb56, "\u0b47",
    "\u0b48"),
   (0xb57, "\u0b47",
    "\u0b4c"),
   (0xbbe, "\u0bc6\u0bc7",
    "\u0bca\u0bcb"),
   (0xbd7, "ஒ\u0bc6",
    "ஔ\u0bcc"),
   (0xc56, "\u0c46",
    "\u0c48"),
   (0xcc2, "\u0cc6",
    "\u0cca"),
   (0xcd5, "\u0cbf\u0cc6\u0cca",
    "\u0cc0\u0cc7\u0ccb"),
   (0xcd6, "\u0cc6",
    "\u0cc8"),
   (0xd3e, "\u0d46\u0d47",
    "\u0d4a\u0d4b"),
   (0xd57, "\u0d46",
    "\u0d4c"),
   (0xdca, "\u0dd9\u0ddc",
    "\u0dda\u0ddd"),
   (0xdcf, "\u0dd9",
    "\u0ddc"),
   (0xddf, "\u0dd9",
    "\u0dde"),
   (0x102e, "ဥ",
    "ဦ"),
   (0x1b35, "ᬅᬇᬉᬋᬍᬑ\u1b3a\u1b3c\u1b3e\u1b3f\u1b42",
    "ᬆᬈᬊᬌᬎᬒ\u1b3b\u1b3d\u1b40\u1b41\u1b43"),
   (0x3099, "かきくけこさしすせそたちつてとはひふへほう\u309dカキ",
    "がぎぐげござじずぜぞだぢづでどばびぶべぼゔ\u309eガギ"),
   (0x3099, "クケコサシスセソタチツテトハヒフヘホウワヰヱヲ\u30fd",
    "グゲゴザジズゼゾダヂヅデドバビブベボヴヷヸヹヺ\u30fe"),
   (0x309a, "はひふへほハヒフヘホ",
    "ぱぴぷぺぽパピプペポ"),
   (0x110ba, "𑂙𑂛𑂥",
    "𑂚𑂜𑂫"),
   (0x11127, "𑄱𑄲",
    "𑄮𑄯"),
   (0x1133e, "𑍇",
    "𑍋"),
   (0x11357, "𑍇",
    "𑍌"),
   (0x113b8, "𑏂",
    "𑏇"),
   (0x113bb, "𑎄",
    "𑎅"),
   (0x113c2, "𑎎",
    "𑎎𑏅"),
   (0x113c9, "𑎂𑎐𑏂",
    "𑎃𑎑𑏈"),
   (0x114b0, "𑒹",
    "𑒼"),
   (0x114ba, "𑒹",
    "𑒻"),
   (0x114bd, "𑒹",
    "𑒾"),
   (0x115af, "𑖸𑖹",
    "𑖺𑖻"),
   (0x11930, "𑤵",
    "𑤸"),
   (0x1611e, "𖄞",
    "𖄡"),
   (0x1611f, "𖄢𖄡𖄢",
    "𖄣𖄤𖄦𖄧"),
   (0x16120, "𖄡𖄞",
    "𖄥𖄨"),
   (0x16129, "𖄞",
    "𖄢"),
   (0x16d67, "𖵧𖵣𖵩",
    "𖵨𖵩𖵪")]

namespace Hangul

def leads : Nat := 0x1100
def vowels : Nat := 0x1161
def tails : Nat := 0x11a7
def syllables : Nat := 0xac00
def leadCount : Nat := 19
def vowelCount : Nat := 21
def tailCount : Nat := 28
def syllableCount : Nat := leadCount * vowelCount * tailCount

def compose? (a b : Nat) : Option Nat :=
  if leads ≤ a && a < leads + leadCount && vowels ≤ b && b < vowels + vowelCount then
    some (syllables + ((a - leads) * vowelCount + (b - vowels)) * tailCount)
  else if syllables ≤ a && a < syllables + syllableCount && (a - syllables) % tailCount = 0
      && tails < b && b < tails + tailCount then
    some (a + (b - tails))
  else none

def decompose? (c : Nat) : Option (Nat × Nat) :=
  if syllables ≤ c && c < syllables + syllableCount then
    let place := c - syllables
    let tail := place % tailCount
    if tail = 0 then
      some (leads + place / (vowelCount * tailCount),
        vowels + place % (vowelCount * tailCount) / tailCount)
    else some (c - tail, tails + tail)
  else none

end Hangul

/-- The member of `whole` that stands where `c` stands in `given`. -/
def counterpart? (c : Char) : List Char → List Char → Option Char
  | a :: given, b :: whole => if a = c then some b else counterpart? c given whole
  | _, _ => none

def compose? (a b : Char) : Option Char :=
  match Hangul.compose? a.toNat b.toNat with
  | some n => some (Char.ofNat n)
  | none => compositions.findSome? fun (mark, given, whole) =>
    if mark = b.toNat then counterpart? a given.toList whole.toList else none

def decompose? (c : Char) : Option (Char × Char) :=
  match Hangul.decompose? c.toNat with
  | some (a, b) => some (Char.ofNat a, Char.ofNat b)
  | none => compositions.findSome? fun (mark, given, whole) =>
    (counterpart? c whole.toList given.toList).map fun a => (a, Char.ofNat mark)

end RecordSelection.Text
