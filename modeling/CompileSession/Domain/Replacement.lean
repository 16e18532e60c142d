import CompileSession.Text.Pieces
import CompileSession.Text.Rows

/-!
# Characters that stand for others

A domain name may be written in capitals, in wide or framed letters, with ligatures and the like.
Each such character stands for others, most of them for one, and some stand for nothing at all.
`replacement?` says what a character stands for. The tables are those of
Unicode 17 for domain names.
-/

namespace CompileSession.Domain

/-- A row of characters `stride` places apart that stand for as many characters with the same
distances, of which the first is `target`. -/
structure Shift where
  first : Nat
  last : Nat
  stride : Nat
  target : Nat

/-- The rows of letters, mostly capitals, in ascending order. -/
def shifts : Array Shift :=
  #[
    ⟨0x41, 0x5a, 1, 0x61⟩, ⟨0xc0, 0xd6, 1, 0xe0⟩, ⟨0xd8, 0xde, 1, 0xf8⟩, ⟨0x100, 0x12e, 2, 0x101⟩,
    ⟨0x141, 0x147, 2, 0x142⟩, ⟨0x14a, 0x176, 2, 0x14b⟩, ⟨0x1cd, 0x1db, 2, 0x1ce⟩,
    ⟨0x1de, 0x1ee, 2, 0x1df⟩, ⟨0x1f8, 0x21e, 2, 0x1f9⟩, ⟨0x222, 0x232, 2, 0x223⟩,
    ⟨0x246, 0x24e, 2, 0x247⟩, ⟨0x391, 0x3a1, 1, 0x3b1⟩, ⟨0x3a3, 0x3ab, 1, 0x3c3⟩,
    ⟨0x3d8, 0x3ee, 2, 0x3d9⟩, ⟨0x400, 0x40f, 1, 0x450⟩, ⟨0x410, 0x42f, 1, 0x430⟩,
    ⟨0x460, 0x480, 2, 0x461⟩, ⟨0x48a, 0x4be, 2, 0x48b⟩, ⟨0x4c1, 0x4cd, 2, 0x4c2⟩,
    ⟨0x4d0, 0x52e, 2, 0x4d1⟩, ⟨0x531, 0x556, 1, 0x561⟩, ⟨0x10a0, 0x10c5, 1, 0x2d00⟩,
    ⟨0x13f8, 0x13fd, 1, 0x13f0⟩, ⟨0x1c90, 0x1cba, 1, 0x10d0⟩, ⟨0x1d33, 0x1d3a, 1, 0x67⟩,
    ⟨0x1dae, 0x1db1, 1, 0x272⟩, ⟨0x1e00, 0x1e94, 2, 0x1e01⟩, ⟨0x1ea0, 0x1efe, 2, 0x1ea1⟩,
    ⟨0x1f08, 0x1f0f, 1, 0x1f00⟩, ⟨0x1f18, 0x1f1d, 1, 0x1f10⟩, ⟨0x1f28, 0x1f2f, 1, 0x1f20⟩,
    ⟨0x1f38, 0x1f3f, 1, 0x1f30⟩, ⟨0x1f48, 0x1f4d, 1, 0x1f40⟩, ⟨0x1f59, 0x1f5f, 2, 0x1f51⟩,
    ⟨0x1f68, 0x1f6f, 1, 0x1f60⟩, ⟨0x2074, 0x2079, 1, 0x34⟩, ⟨0x2080, 0x2089, 1, 0x30⟩,
    ⟨0x2096, 0x2099, 1, 0x6b⟩, ⟨0x2135, 0x2138, 1, 0x5d0⟩, ⟨0x2460, 0x2468, 1, 0x31⟩,
    ⟨0x24b6, 0x24cf, 1, 0x61⟩, ⟨0x24d0, 0x24e9, 1, 0x61⟩, ⟨0x2c00, 0x2c2f, 1, 0x2c30⟩,
    ⟨0x2c80, 0x2ce2, 2, 0x2c81⟩, ⟨0x313a, 0x313f, 1, 0x11b0⟩, ⟨0x3145, 0x314e, 1, 0x1109⟩,
    ⟨0x314f, 0x3163, 1, 0x1161⟩, ⟨0x3178, 0x317c, 1, 0x112b⟩, ⟨0x3269, 0x326d, 1, 0x110e⟩,
    ⟨0x32e4, 0x32e9, 1, 0x30ca⟩, ⟨0x32ee, 0x32f2, 1, 0x30de⟩, ⟨0x32f5, 0x32fa, 1, 0x30e8⟩,
    ⟨0x32fb, 0x32fe, 1, 0x30ef⟩, ⟨0xa640, 0xa66c, 2, 0xa641⟩, ⟨0xa680, 0xa69a, 2, 0xa681⟩,
    ⟨0xa722, 0xa72e, 2, 0xa723⟩, ⟨0xa732, 0xa76e, 2, 0xa733⟩, ⟨0xa77e, 0xa786, 2, 0xa77f⟩,
    ⟨0xa796, 0xa7a8, 2, 0xa797⟩, ⟨0xa7b4, 0xa7c2, 2, 0xa7b5⟩, ⟨0xa7cc, 0xa7da, 2, 0xa7cd⟩,
    ⟨0xab70, 0xabbf, 1, 0x13a0⟩, ⟨0xfe41, 0xfe44, 1, 0x300c⟩, ⟨0xff01, 0xff20, 1, 0x21⟩,
    ⟨0xff21, 0xff3a, 1, 0x61⟩, ⟨0xff3b, 0xff5e, 1, 0x5b⟩, ⟨0xff85, 0xff8a, 1, 0x30ca⟩,
    ⟨0xff8f, 0xff93, 1, 0x30de⟩, ⟨0xff96, 0xff9b, 1, 0x30e8⟩, ⟨0xffaa, 0xffaf, 1, 0x11b0⟩,
    ⟨0xffb5, 0xffbe, 1, 0x1109⟩, ⟨0xffc2, 0xffc7, 1, 0x1161⟩, ⟨0xffca, 0xffcf, 1, 0x1167⟩,
    ⟨0xffd2, 0xffd7, 1, 0x116d⟩, ⟨0xffe9, 0xffec, 1, 0x2190⟩, ⟨0x10400, 0x10427, 1, 0x10428⟩,
    ⟨0x104b0, 0x104d3, 1, 0x104d8⟩, ⟨0x10570, 0x1057a, 1, 0x10597⟩, ⟨0x1057c, 0x1058a, 1, 0x105a3⟩,
    ⟨0x1058c, 0x10592, 1, 0x105b3⟩, ⟨0x10c80, 0x10cb2, 1, 0x10cc0⟩, ⟨0x10d50, 0x10d65, 1, 0x10d70⟩,
    ⟨0x118a0, 0x118bf, 1, 0x118c0⟩, ⟨0x16e40, 0x16e5f, 1, 0x16e60⟩, ⟨0x16ea0, 0x16eb8, 1, 0x16ebb⟩,
    ⟨0x1ccd6, 0x1ccef, 1, 0x61⟩, ⟨0x1ccf0, 0x1ccf9, 1, 0x30⟩, ⟨0x1d400, 0x1d419, 1, 0x61⟩,
    ⟨0x1d41a, 0x1d433, 1, 0x61⟩, ⟨0x1d434, 0x1d44d, 1, 0x61⟩, ⟨0x1d44e, 0x1d454, 1, 0x61⟩,
    ⟨0x1d456, 0x1d467, 1, 0x69⟩, ⟨0x1d468, 0x1d481, 1, 0x61⟩, ⟨0x1d482, 0x1d49b, 1, 0x61⟩,
    ⟨0x1d4a9, 0x1d4ac, 1, 0x6e⟩, ⟨0x1d4ae, 0x1d4b5, 1, 0x73⟩, ⟨0x1d4b6, 0x1d4b9, 1, 0x61⟩,
    ⟨0x1d4bd, 0x1d4c3, 1, 0x68⟩, ⟨0x1d4c5, 0x1d4cf, 1, 0x70⟩, ⟨0x1d4d0, 0x1d4e9, 1, 0x61⟩,
    ⟨0x1d4ea, 0x1d503, 1, 0x61⟩, ⟨0x1d507, 0x1d50a, 1, 0x64⟩, ⟨0x1d50d, 0x1d514, 1, 0x6a⟩,
    ⟨0x1d516, 0x1d51c, 1, 0x73⟩, ⟨0x1d51e, 0x1d537, 1, 0x61⟩, ⟨0x1d53b, 0x1d53e, 1, 0x64⟩,
    ⟨0x1d540, 0x1d544, 1, 0x69⟩, ⟨0x1d54a, 0x1d550, 1, 0x73⟩, ⟨0x1d552, 0x1d56b, 1, 0x61⟩,
    ⟨0x1d56c, 0x1d585, 1, 0x61⟩, ⟨0x1d586, 0x1d59f, 1, 0x61⟩, ⟨0x1d5a0, 0x1d5b9, 1, 0x61⟩,
    ⟨0x1d5ba, 0x1d5d3, 1, 0x61⟩, ⟨0x1d5d4, 0x1d5ed, 1, 0x61⟩, ⟨0x1d5ee, 0x1d607, 1, 0x61⟩,
    ⟨0x1d608, 0x1d621, 1, 0x61⟩, ⟨0x1d622, 0x1d63b, 1, 0x61⟩, ⟨0x1d63c, 0x1d655, 1, 0x61⟩,
    ⟨0x1d656, 0x1d66f, 1, 0x61⟩, ⟨0x1d670, 0x1d689, 1, 0x61⟩, ⟨0x1d68a, 0x1d6a3, 1, 0x61⟩,
    ⟨0x1d6a8, 0x1d6b8, 1, 0x3b1⟩, ⟨0x1d6ba, 0x1d6c0, 1, 0x3c3⟩, ⟨0x1d6c2, 0x1d6d2, 1, 0x3b1⟩,
    ⟨0x1d6d4, 0x1d6da, 1, 0x3c3⟩, ⟨0x1d6e2, 0x1d6f2, 1, 0x3b1⟩, ⟨0x1d6f4, 0x1d6fa, 1, 0x3c3⟩,
    ⟨0x1d6fc, 0x1d70c, 1, 0x3b1⟩, ⟨0x1d70e, 0x1d714, 1, 0x3c3⟩, ⟨0x1d71c, 0x1d72c, 1, 0x3b1⟩,
    ⟨0x1d72e, 0x1d734, 1, 0x3c3⟩, ⟨0x1d736, 0x1d746, 1, 0x3b1⟩, ⟨0x1d748, 0x1d74e, 1, 0x3c3⟩,
    ⟨0x1d756, 0x1d766, 1, 0x3b1⟩, ⟨0x1d768, 0x1d76e, 1, 0x3c3⟩, ⟨0x1d770, 0x1d780, 1, 0x3b1⟩,
    ⟨0x1d782, 0x1d788, 1, 0x3c3⟩, ⟨0x1d790, 0x1d7a0, 1, 0x3b1⟩, ⟨0x1d7a2, 0x1d7a8, 1, 0x3c3⟩,
    ⟨0x1d7aa, 0x1d7ba, 1, 0x3b1⟩, ⟨0x1d7bc, 0x1d7c2, 1, 0x3c3⟩, ⟨0x1d7ce, 0x1d7d7, 1, 0x30⟩,
    ⟨0x1d7d8, 0x1d7e1, 1, 0x30⟩, ⟨0x1d7e2, 0x1d7eb, 1, 0x30⟩, ⟨0x1d7ec, 0x1d7f5, 1, 0x30⟩,
    ⟨0x1d7f6, 0x1d7ff, 1, 0x30⟩, ⟨0x1e030, 0x1e038, 1, 0x430⟩, ⟨0x1e03c, 0x1e046, 1, 0x43e⟩,
    ⟨0x1e051, 0x1e059, 1, 0x430⟩, ⟨0x1e05f, 0x1e064, 1, 0x443⟩, ⟨0x1e900, 0x1e921, 1, 0x1e922⟩,
    ⟨0x1ee0a, 0x1ee0d, 1, 0x643⟩, ⟨0x1ee2a, 0x1ee2d, 1, 0x643⟩, ⟨0x1f130, 0x1f149, 1, 0x61⟩,
    ⟨0x1fbf0, 0x1fbf9, 1, 0x30⟩
  ]

/-- Characters that stand for one other each: the first of a row, and what it and those after it
stand for. -/
def single : Array (Nat × String) :=
  #[
    (0xa0, " "), (0xaa, "a"), (0xb2, "23"), (0xb5, "μ"), (0xb9, "1o"), (0x134, "ĵ"), (0x136, "ķ"),
    (0x139, "ĺ"), (0x13b, "ļ"), (0x13d, "ľ"), (0x178, "ÿź"), (0x17b, "ż"), (0x17d, "ž"),
    (0x17f, "s"), (0x181, "ɓƃ"), (0x184, "ƅ"), (0x186, "ɔƈ"), (0x189, "ɖɗƌ"), (0x18e, "ǝəɛƒ"),
    (0x193, "ɠɣ"), (0x196, "ɩɨƙ"), (0x19c, "ɯɲ"), (0x19f, "ɵơ"), (0x1a2, "ƣ"), (0x1a4, "ƥ"),
    (0x1a6, "ʀƨ"), (0x1a9, "ʃ"), (0x1ac, "ƭ"), (0x1ae, "ʈư"), (0x1b1, "ʊʋƴ"), (0x1b5, "ƶ"),
    (0x1b7, "ʒƹ"), (0x1bc, "ƽ"), (0x1f4, "ǵ"), (0x1f6, "ƕƿ"), (0x220, "ƞ"), (0x23a, "ⱥȼ"),
    (0x23d, "ƚⱦ"), (0x241, "ɂ"), (0x243, "ƀʉʌ"), (0x2b0, "hɦjrɹɻʁwy"), (0x2e0, "ɣlsxʕ"),
    (0x340, "\u0300\u0301"), (0x343, "\u0313"), (0x345, "ι"), (0x370, "ͱ"), (0x372, "ͳ"),
    (0x374, "ʹ"), (0x376, "ͷ"), (0x37e, ";ϳ"), (0x386, "ά·έήί"), (0x38c, "ό"), (0x38e, "ύώ"),
    (0x3cf, "ϗβθυύϋφπ"), (0x3f0, "κρσ"), (0x3f4, "θε"), (0x3f7, "ϸ"), (0x3f9, "σϻ"), (0x3fd, "ͻͼͽ"),
    (0x4c0, "ӏ"), (0xf0c, "་"), (0x10c7, "ⴧ"), (0x10cd, "ⴭ"), (0x10fc, "ნ"), (0x1c80, "вдосттъѣꙋᲊ"),
    (0x1cbd, "ჽჾჿ"), (0x1d2c, "aæb"), (0x1d30, "deǝ"), (0x1d3c, "oȣprtuwaɐɑᴂbdeəɛɜg"),
    (0x1d4f, "kmŋoɔᴖᴗptuᴝɯvᴥβγδφχiruvβγρφχ"), (0x1d78, "н"), (0x1d9b, "ɒcɕðɜfɟɡɥɨɩɪᵻʝɭᶅʟɱɰ"),
    (0x1db2, "ɸʂʃƫʉʊᴜʋʌzʐʑʒθ"), (0x1e9b, "ṡ"), (0x1e9e, "ß"), (0x1f71, "ά"), (0x1f73, "έ"),
    (0x1f75, "ή"), (0x1f77, "ί"), (0x1f79, "ό"), (0x1f7b, "ύ"), (0x1f7d, "ώ"), (0x1fb8, "ᾰᾱὰά"),
    (0x1fbe, "ι"), (0x1fc8, "ὲέὴή"), (0x1fd3, "ΐ"), (0x1fd8, "ῐῑὶί"), (0x1fe3, "ΰ"),
    (0x1fe8, "ῠῡὺύῥ"), (0x1fef, "\x60"), (0x1ff8, "ὸόὼώ"), (0x2000, "           "), (0x2011, "‐"),
    (0x202f, " "), (0x205f, " "), (0x2070, "0i"), (0x207a, "+−=()n"), (0x208a, "+−=()"),
    (0x2090, "aeoxəh"), (0x209a, "pst"), (0x2102, "c"), (0x2107, "ɛ"), (0x210a, "ghhhhħiill"),
    (0x2115, "n"), (0x2119, "pqrrr"), (0x2124, "z"), (0x2126, "ω"), (0x2128, "z"), (0x212a, "kåbc"),
    (0x212f, "eefⅎmo"), (0x2139, "i"), (0x213c, "πγγπ∑"), (0x2145, "ddeij"), (0x2160, "i"),
    (0x2164, "v"), (0x2169, "x"), (0x216c, "lcdmi"), (0x2174, "v"), (0x2179, "x"), (0x217c, "lcdm"),
    (0x2183, "ↄ"), (0x2329, "〈〉"), (0x24ea, "0"), (0x2c60, "ⱡ"), (0x2c62, "ɫᵽɽ"), (0x2c67, "ⱨ"),
    (0x2c69, "ⱪ"), (0x2c6b, "ⱬ"), (0x2c6d, "ɑɱɐɒ"), (0x2c72, "ⱳ"), (0x2c75, "ⱶ"), (0x2c7c, "jvȿɀ"),
    (0x2ceb, "ⳬ"), (0x2ced, "ⳮ"), (0x2cf2, "ⳳ"), (0x2d6f, "ⵡ"), (0x2e9f, "母"), (0x2ef3, "龟"),
    (0x2f00, "一丨丶丿乙亅二亠人儿入八冂冖冫几凵刀力勹匕匚匸十卜卩厂厶又口囗土士夂夊夕大女子宀寸小尢尸屮山巛工己巾干幺广廴廾弋弓彐彡彳心戈戶手支攴文斗斤方无日曰月木欠止歹殳毋比毛"),
    (0x2f52, "氏气水火爪父爻爿片牙牛犬玄玉瓜瓦甘生用田疋疒癶白皮皿目矛矢石示禸禾穴立竹米糸缶网羊羽老而耒耳聿肉臣自至臼舌舛舟艮色艸虍虫血行衣襾見角言谷豆豕豸貝赤走足身車辛辰辵邑酉"),
    (0x2fa4, "釆里金長門阜隶隹雨靑非面革韋韭音頁風飛食首香馬骨高髟鬥鬯鬲鬼魚鳥鹵鹿麥麻黃黍黑黹黽鼎鼓鼠鼻齊齒龍龜龠"), (0x3000, " "), (0x3002, "."),
    (0x3036, "〒"), (0x3038, "十卄卅"), (0x3131, "ᄀᄁᆪᄂᆬᆭᄃᄄᄅ"), (0x3140, "ᄚᄆᄇᄈᄡ"),
    (0x3165, "ᄔᄕᇇᇈᇌᇎᇓᇗᇙᄜᇝᇟᄝᄞᄠᄢᄣᄧᄩ"), (0x317d, "ᄲᄶᅀᅇᅌᇱᇲᅗᅘᅙᆄᆅᆈᆑᆒᆔᆞᆡ"), (0x3192, "一二三四上中下甲乙丙丁天地人"),
    (0x3244, "問幼文箏"), (0x3260, "ᄀᄂᄃᄅᄆᄇᄉᄋᄌ"), (0x326e, "가나다라마바사아자차카타파하"), (0x327e, "우"),
    (0x3280, "一二三四五六七八九十月火水木金土日株有社名特財祝労秘男女適優印注項休写正上中下左右医宗学監企資協夜"), (0x32d0, "アイウエオカキクケコサシスセソタチツテト"),
    (0x32ea, "ヒフヘホ"), (0x32f3, "ヤユ"), (0xa69c, "ъь"), (0xa770, "ꝯ"), (0xa779, "ꝺ"), (0xa77b, "ꝼ"),
    (0xa77d, "ᵹ"), (0xa78b, "ꞌ"), (0xa78d, "ɥ"), (0xa790, "ꞑ"), (0xa792, "ꞓ"), (0xa7aa, "ɦɜɡɬɪ"),
    (0xa7b0, "ʞʇʝꭓ"), (0xa7c4, "ꞔʂᶎꟈ"), (0xa7c9, "ꟊ"), (0xa7cb, "ɤ"), (0xa7dc, "ƛ"),
    (0xa7f1, "scfqꟶ"), (0xa7f8, "ħœ"), (0xab5c, "ꜧꬷɫꭒ"), (0xab69, "ʍ"),
    (0xf900, "豈更車賈滑串句龜龜契金喇奈懶癩羅蘿螺裸邏樂洛烙珞落酪駱亂卵欄爛蘭鸞嵐濫藍襤拉臘蠟廊朗浪狼郎來冷勞擄櫓爐盧老蘆虜路露魯鷺碌祿綠菉錄鹿論壟弄籠聾牢磊賂雷壘屢樓淚漏累縷陋"),
    (0xf952, "勒肋凜凌稜綾菱陵讀拏樂諾丹寧怒率異北磻便復不泌數索參塞省葉說殺辰沈拾若掠略亮兩凉梁糧良諒量勵呂女廬旅濾礪閭驪麗黎力曆歷轢年憐戀撚漣煉璉秊練聯輦蓮連鍊列劣咽烈裂說廉念"),
    (0xf9a4, "捻殮簾獵令囹寧嶺怜玲瑩羚聆鈴零靈領例禮醴隸惡了僚寮尿料樂燎療蓼遼龍暈阮劉杻柳流溜琉留硫紐類六戮陸倫崙淪輪律慄栗率隆利吏履易李梨泥理痢罹裏裡里離匿溺吝燐璘藺隣鱗麟林淋"),
    (0xf9f6, "臨立笠粒狀炙識什茶刺切度拓糖宅洞暴輻行降見廓兀嗀"), (0xfa10, "塚"), (0xfa12, "晴"), (0xfa15, "凞猪益礼神祥福靖精羽"),
    (0xfa20, "蘒"), (0xfa22, "諸"), (0xfa25, "逸都"),
    (0xfa2a, "飯飼館鶴郞隷侮僧免勉勤卑喝嘆器塀墨層屮悔慨憎懲敏既暑梅海渚漢煮爫琢碑社祉祈祐祖祝禍禎穀突節練縉繁署者臭艹艹著褐視謁謹賓贈辶逸難響頻恵𤋮舘"),
    (0xfa70, "並况全侀充冀勇勺喝啕喙嗢塚墳奄奔婢嬨廒廙彩徭惘慎愈憎慠懲戴揄搜摒敖晴朗望杖歹殺流滛滋漢瀞煮瞧爵犯猪瑱甆画瘝瘟益盛直睊着磌窱節类絛練缾者荒華蝹襁覆視調諸請謁諾諭謹變贈"),
    (0xfac2, "輸遲醙鉶陼難靖韛響頋頻鬒龜𢡊𢡄𣏕㮝䀘䀹𥉉𥳐𧻓齃龎"),
    (0xfb20, "\u05e2\u05d0\u05d3\u05d4\u05db\u05dc\u05dd\u05e8\u05ea+"),
    (0xfb50, "\u0671\u0671\u067b\u067b\u067b\u067b\u067e\u067e\u067e\u067e\u0680\u0680\u0680"),
    (0xfb5d, "\u0680\u067a\u067a\u067a\u067a\u067f\u067f\u067f\u067f\u0679\u0679\u0679\u0679"),
    (0xfb6a, "\u06a4\u06a4\u06a4\u06a4\u06a6\u06a6\u06a6\u06a6\u0684\u0684\u0684\u0684\u0683"),
    (0xfb77, "\u0683\u0683\u0683\u0686\u0686\u0686\u0686\u0687\u0687\u0687\u0687\u068d\u068d"),
    (0xfb84, "\u068c\u068c\u068e\u068e\u0688\u0688\u0698\u0698\u0691\u0691\u06a9\u06a9\u06a9"),
    (0xfb91, "\u06a9\u06af\u06af\u06af\u06af\u06b3\u06b3\u06b3\u06b3\u06b1\u06b1\u06b1\u06b1"),
    (0xfb9e, "\u06ba\u06ba\u06bb\u06bb\u06bb\u06bb\u06c0\u06c0\u06c1\u06c1\u06c1\u06c1\u06be"),
    (0xfbab, "\u06be\u06be\u06be\u06d2\u06d2\u06d3\u06d3"),
    (0xfbd3, "\u06ad\u06ad\u06ad\u06ad\u06c7\u06c7\u06c6\u06c6\u06c8\u06c8"),
    (0xfbde, "\u06cb\u06cb\u06c5\u06c5\u06c9\u06c9\u06d0\u06d0\u06d0\u06d0\u0649\u0649"),
    (0xfbfc, "\u06cc\u06cc\u06cc\u06cc"), (0xfe10, ",、"), (0xfe13, ":;!?〖〗"),
    (0xfe31, "—–__()\x7b\x7d〔〕【】《》〈〉"), (0xfe47, "[]"), (0xfe4d, "___,、"),
    (0xfe54, ";:?!—()\x7b\x7d〔〕#&*+-<>="), (0xfe68, "\\$%@"),
    (0xfe80, "\u0621\u0622\u0622\u0623\u0623\u0624\u0624\u0625\u0625\u0626\u0626\u0626\u0626"),
    (0xfe8d, "\u0627\u0627\u0628\u0628\u0628\u0628\u0629\u0629\u062a\u062a\u062a\u062a\u062b"),
    (0xfe9a, "\u062b\u062b\u062b\u062c\u062c\u062c\u062c\u062d\u062d\u062d\u062d\u062e\u062e"),
    (0xfea7, "\u062e\u062e\u062f\u062f\u0630\u0630\u0631\u0631\u0632\u0632\u0633\u0633\u0633"),
    (0xfeb4, "\u0633\u0634\u0634\u0634\u0634\u0635\u0635\u0635\u0635\u0636\u0636\u0636\u0636"),
    (0xfec1, "\u0637\u0637\u0637\u0637\u0638\u0638\u0638\u0638\u0639\u0639\u0639\u0639\u063a"),
    (0xfece, "\u063a\u063a\u063a\u0641\u0641\u0641\u0641\u0642\u0642\u0642\u0642\u0643\u0643"),
    (0xfedb, "\u0643\u0643\u0644\u0644\u0644\u0644\u0645\u0645\u0645\u0645\u0646\u0646\u0646"),
    (0xfee8, "\u0646\u0647\u0647\u0647\u0647\u0648\u0648\u0649\u0649\u064a\u064a\u064a\u064a"),
    (0xff5f, "⦅⦆.「」、・ヲァィゥェォャュョッーアイウエオカキクケコサシスセソタチツテト"), (0xff8b, "ヒフヘホ"), (0xff94, "ヤユ"),
    (0xff9c, "ワン\u3099\u309a"), (0xffa1, "ᄀᄁᆪᄂᆬᆭᄃᄄᄅ"), (0xffb0, "ᄚᄆᄇᄈᄡ"), (0xffda, "ᅳᅴᅵ"),
    (0xffe0, "¢£¬"), (0xffe4, "¦¥₩"), (0xffe8, "│"), (0xffed, "■○"), (0x10594, "𐖻𐖼"),
    (0x10781, "ːˑæʙɓ"), (0x10787, "ʣꭦʥʤɖɗᶑɘɞʩɤɢɠʛħʜɧʄʪʫɬ𝼄ꞎɮ𝼅ʎ𝼆øɶɷqɺ𝼈ɽɾʀʨʦꭧʧʈⱱ"),
    (0x107b2, "ʏʡʢʘǀǁǂ𝼊𝼞"), (0x1d49c, "a"), (0x1d49e, "cd"), (0x1d4a2, "g"), (0x1d4a5, "jk"),
    (0x1d4bb, "f"), (0x1d504, "ab"), (0x1d538, "ab"), (0x1d546, "o"), (0x1d6a4, "ıȷ"),
    (0x1d6b9, "θ"), (0x1d6c1, "∇"), (0x1d6d3, "σ"), (0x1d6db, "∂εθκφρπ"), (0x1d6f3, "θ"),
    (0x1d6fb, "∇"), (0x1d70d, "σ"), (0x1d715, "∂εθκφρπ"), (0x1d72d, "θ"), (0x1d735, "∇"),
    (0x1d747, "σ"), (0x1d74f, "∂εθκφρπ"), (0x1d767, "θ"), (0x1d76f, "∇"), (0x1d781, "σ"),
    (0x1d789, "∂εθκφρπ"), (0x1d7a1, "θ"), (0x1d7a9, "∇"), (0x1d7bb, "σ"), (0x1d7c3, "∂εθκφρπϝϝ"),
    (0x1e039, "клм"), (0x1e047, "ыэюꚉәіјөүӏ"), (0x1e05a, "клопс"), (0x1e065, "ъыґіѕџҫꙑұ"),
    (0x1ee00, "\u0627\u0628\u062c\u062f"), (0x1ee05, "\u0648\u0632\u062d\u0637\u064a"),
    (0x1ee0e, "\u0633\u0639\u0641\u0635\u0642\u0631\u0634\u062a\u062b\u062e\u0630\u0636\u0638"),
    (0x1ee1b, "\u063a\u066e\u06ba\u06a1\u066f"), (0x1ee21, "\u0628\u062c"), (0x1ee24, "\u0647"),
    (0x1ee27, "\u062d"), (0x1ee29, "\u064a"), (0x1ee2e, "\u0633\u0639\u0641\u0635\u0642"),
    (0x1ee34, "\u0634\u062a\u062b\u062e"), (0x1ee39, "\u0636"), (0x1ee3b, "\u063a"),
    (0x1ee42, "\u062c"), (0x1ee47, "\u062d"), (0x1ee49, "\u064a"), (0x1ee4b, "\u0644"),
    (0x1ee4d, "\u0646\u0633\u0639"), (0x1ee51, "\u0635\u0642"), (0x1ee54, "\u0634"),
    (0x1ee57, "\u062e"), (0x1ee59, "\u0636"), (0x1ee5b, "\u063a"), (0x1ee5d, "\u06ba"),
    (0x1ee5f, "\u066f"), (0x1ee61, "\u0628\u062c"), (0x1ee64, "\u0647"),
    (0x1ee67, "\u062d\u0637\u064a\u0643"), (0x1ee6c, "\u0645\u0646\u0633\u0639\u0641\u0635\u0642"),
    (0x1ee74, "\u0634\u062a\u062b\u062e"), (0x1ee79, "\u0636\u0638\u063a\u066e"),
    (0x1ee7e, "\u06a1"), (0x1ee80, "\u0627\u0628\u062c\u062f\u0647\u0648\u0632\u062d\u0637\u064a"),
    (0x1ee8b, "\u0644\u0645\u0646\u0633\u0639\u0641\u0635\u0642\u0631\u0634\u062a\u062b\u062e"),
    (0x1ee98, "\u0630\u0636\u0638\u063a"), (0x1eea1, "\u0628\u062c\u062f"),
    (0x1eea5, "\u0648\u0632\u062d\u0637\u064a"),
    (0x1eeab, "\u0644\u0645\u0646\u0633\u0639\u0641\u0635\u0642\u0631\u0634\u062a\u062b\u062e"),
    (0x1eeb8, "\u0630\u0636\u0638\u063a"), (0x1f12b, "cr"), (0x1f202, "サ"),
    (0x1f210, "手字双デ二多解天交映無料前後再新初終生販声吹演投捕一三遊左中右指走打禁空合満有月申割営配"), (0x1f250, "得可"),
    (0x2f800, "丽丸乁𠄢你侮侻倂偺備僧像㒞𠘺免兔兤具𠔜㒹內再𠕋冗冤仌冬况𩇟凵刃㓟刻剆割剷㔕勇勉勤勺包匆北卉卑博即卽卿卿卿𠨬灰及叟𠭣叫叱吆咞吸呈周咢哶唐啓啣善善喙喫喳嗂圖嘆圗噑噴切壮"),
    (0x2f852, "城埴堍型堲報墬𡓤売壷夆多夢奢𡚨𡛪姬娛娧姘婦㛮㛼嬈嬾嬾𡧈寃寘寧寳𡬘寿将当尢㞁屠屮峀岍𡷤嵃𡷦嵮嵫嵼巡巢㠯巽帨帽幩㡢𢆃㡼庰庳庶廊𪎒廾𢌱𢌱舁弢弢㣇𣊸𦇚形彫㣣徚忍志忹悁㤺㤜悔"),
    (0x2f8a4, "𢛔惇慈慌慎慌慺憎憲憤憯懞懲懶成戛扝抱拔捐𢬌挽拼捨掃揤𢯱搢揅掩㨮摩摾撝摷㩬敏敬𣀊旣書晉㬙暑㬈㫤冒冕最暜肭䏙朗望朡杞杓𣏃㭉柺枅桒梅𣑭梎栟椔㮝楂榣槪檨𣚣櫛㰘次𣢧歔㱎歲殟殺"),
    (0x2f8f6, "殻𣪍𡴋𣫺汎𣲼沿泍汧洖派海流浩浸涅𣴞洴港湮㴳滋滇𣻑淹潮𣽞𣾎濆瀹瀞瀛㶖灊災灷炭𠔥煅𤉣熜𤎫爨爵牐𤘈犀犕𤜵𤠔獺王㺬玥㺸㺸瑇瑜瑱璅瓊㼛甤𤰶甾𤲒異𢆟瘐𤾡𤾸𥁄㿼䀈直𥃳𥃲𥄙𥄳眞真真"),
    (0x2f948, "睊䀹瞋䁆䂖𥐝硎碌磌䃣𥘦祖𥚚𥛅福秫䄯穀穊穏𥥼𥪧𥪧竮䈂𥮫篆築䈧𥲀糒䊠糨糣紀𥾆絣䌁緇縂繅䌴𦈨𦉇䍙𦋙罺𦌾羕翺者𦓚𦔣聠𦖨聰𣍟䏕育脃䐋脾媵𦞧𦞵𣎓𣎜舁舄辞䑫芑芋芝劳花芳芽苦𦬼若茝"),
    (0x2f99a, "荣莭茣莽菧著荓菊菌菜𦰶𦵫𦳕䔫蓱蓳蔖𧏊蕤𦼬䕝䕡𦾱𧃒䕫虐虜虧虩蚩蚈蜎蛢蝹蜨蝫螆䗗蟡蠁䗹衠衣𧙧裗裞䘵裺㒻𧢮𧥦䚾䛇誠諭變豕𧲨貫賁贛起𧼯𠠄跋趼跰𠣞軔輸𨗒𨗭邔郱鄑𨜮鄛鈸鋗鋘鉼鏹"),
    (0x2f9ec, "鐕𨯺開䦕閷𨵷䧦雃嶲霣𩅅𩈚䩮䩶韠𩐊䪲𩒖頋頋頩𩖶飢䬳餩馧駂駾䯎𩬰鬒鱀鳽䳎䳭鵧𪃎䳸𪄅𪈎𪊑麻䵖黹黾鼅鼏鼖鼻𪘀")
  ]

/-- Characters that stand for several others each: the first of a row, and what it and those after
it stand for, with bars between. -/
def several : Array (Nat × String) :=
  #[
    (0xa8, " \u0308"), (0xaf, " \u0304"), (0xb4, " \u0301"), (0xb8, " \u0327"),
    (0xbc, "1⁄4|1⁄2|3⁄4"), (0x130, "i\u0307"), (0x132, "ij|ij"), (0x13f, "l·|l·"), (0x149, "ʼn"),
    (0x1c4, "dž|dž|dž|lj|lj|lj|nj|nj|nj"), (0x1f1, "dz|dz|dz"),
    (0x2d8, " \u0306| \u0307| \u030a| \u0328| \u0303| \u030b"), (0x344, "\u0308\u0301"),
    (0x37a, " ι"), (0x384, " \u0301| \u0308\u0301"), (0x587, "եւ"),
    (0x675, "\u0627\u0674|\u0648\u0674|\u06c7\u0674|\u064a\u0674"),
    (0x958, "क\u093c|ख\u093c|ग\u093c|ज\u093c|ड\u093c|ढ\u093c|फ\u093c|य\u093c"),
    (0x9dc, "ড\u09bc|ঢ\u09bc"), (0x9df, "য\u09bc"), (0xa33, "ਲ\u0a3c"), (0xa36, "ਸ\u0a3c"),
    (0xa59, "ਖ\u0a3c|ਗ\u0a3c|ਜ\u0a3c"), (0xa5e, "ਫ\u0a3c"), (0xb5c, "ଡ\u0b3c|ଢ\u0b3c"),
    (0xe33, "\u0e4dา"), (0xeb3, "\u0ecdາ"), (0xedc, "ຫນ|ຫມ"), (0xf43, "ག\u0fb7"),
    (0xf4d, "ཌ\u0fb7"), (0xf52, "ད\u0fb7"), (0xf57, "བ\u0fb7"), (0xf5c, "ཛ\u0fb7"),
    (0xf69, "ཀ\u0fb5"), (0xf73, "\u0f71\u0f72"),
    (0xf75, "\u0f71\u0f74|\u0fb2\u0f80|\u0fb2\u0f71\u0f80|\u0fb3\u0f80|\u0fb3\u0f71\u0f80"),
    (0xf81, "\u0f71\u0f80"), (0xf93, "\u0f92\u0fb7"), (0xf9d, "\u0f9c\u0fb7"),
    (0xfa2, "\u0fa1\u0fb7"), (0xfa7, "\u0fa6\u0fb7"), (0xfac, "\u0fab\u0fb7"),
    (0xfb9, "\u0f90\u0fb5"), (0x1e9a, "aʾ"),
    (0x1f80, "ἀι|ἁι|ἂι|ἃι|ἄι|ἅι|ἆι|ἇι|ἀι|ἁι|ἂι|ἃι|ἄι|ἅι|ἆι|ἇι|ἠι|ἡι|ἢι|ἣι|ἤι|ἥι|ἦι|ἧι|ἠι|ἡι|ἢι"),
    (0x1f9b, "ἣι|ἤι|ἥι|ἦι|ἧι|ὠι|ὡι|ὢι|ὣι|ὤι|ὥι|ὦι|ὧι|ὠι|ὡι|ὢι|ὣι|ὤι|ὥι|ὦι|ὧι"),
    (0x1fb2, "ὰι|αι|άι"), (0x1fb7, "ᾶι"), (0x1fbc, "αι| \u0313"),
    (0x1fbf, " \u0313| \u0342| \u0308\u0342|ὴι|ηι|ήι"), (0x1fc7, "ῆι"),
    (0x1fcc, "ηι| \u0313\u0300| \u0313\u0301| \u0313\u0342"),
    (0x1fdd, " \u0314\u0300| \u0314\u0301| \u0314\u0342"), (0x1fed, " \u0308\u0300| \u0308\u0301"),
    (0x1ff2, "ὼι|ωι|ώι"), (0x1ff7, "ῶι"), (0x1ffc, "ωι| \u0301| \u0314"), (0x2017, " \u0333"),
    (0x2033, "′′|′′′"), (0x2036, "‵‵|‵‵‵"), (0x203c, "!!"), (0x203e, " \u0305"),
    (0x2047, "??|?!|!?"), (0x2057, "′′′′"), (0x20a8, "rs"), (0x2100, "a/c|a/s"), (0x2103, "°c"),
    (0x2105, "c/o|c/u"), (0x2109, "°f"), (0x2116, "no"), (0x2120, "sm|tel|tm"), (0x213b, "fax"),
    (0x2150, "1⁄7|1⁄9|1⁄10|1⁄3|2⁄3|1⁄5|2⁄5|3⁄5|4⁄5|1⁄6|5⁄6|1⁄8|3⁄8|5⁄8|7⁄8|1⁄"),
    (0x2161, "ii|iii|iv"), (0x2165, "vi|vii|viii|ix"), (0x216a, "xi|xii"), (0x2171, "ii|iii|iv"),
    (0x2175, "vi|vii|viii|ix"), (0x217a, "xi|xii"), (0x2189, "0⁄3"), (0x222c, "∫∫|∫∫∫"),
    (0x222f, "∮∮|∮∮∮"),
    (0x2469, "10|11|12|13|14|15|16|17|18|19|20|(1)|(2)|(3)|(4)|(5)|(6)|(7)|(8)|(9)|(10)|(11)"),
    (0x247f, "(12)|(13)|(14)|(15)|(16)|(17)|(18)|(19)|(20)"),
    (0x249c, "(a)|(b)|(c)|(d)|(e)|(f)|(g)|(h)|(i)|(j)|(k)|(l)|(m)|(n)|(o)|(p)|(q)|(r)|(s)|(t)"),
    (0x24b0, "(u)|(v)|(w)|(x)|(y)|(z)"), (0x2a0c, "∫∫∫∫"), (0x2a74, "::=|==|==="),
    (0x2adc, "⫝\u0338"), (0x309b, " \u3099| \u309a"), (0x309f, "より"), (0x30ff, "コト"),
    (0x3200, "(ᄀ)|(ᄂ)|(ᄃ)|(ᄅ)|(ᄆ)|(ᄇ)|(ᄉ)|(ᄋ)|(ᄌ)|(ᄎ)|(ᄏ)|(ᄐ)|(ᄑ)|(ᄒ)|(가)|(나)|(다)|(라)|(마)|(바)"),
    (0x3214, "(사)|(아)|(자)|(차)|(카)|(타)|(파)|(하)|(주)|(오전)|(오후)"),
    (0x3220, "(一)|(二)|(三)|(四)|(五)|(六)|(七)|(八)|(九)|(十)|(月)|(火)|(水)|(木)|(金)|(土)|(日)|(株)|(有)|(社)"),
    (0x3234, "(名)|(特)|(財)|(祝)|(労)|(代)|(呼)|(学)|(監)|(企)|(資)|(協)|(祭)|(休)|(自)|(至)"),
    (0x3250, "pte|21|22|23|24|25|26|27|28|29|30|31|32|33|34|35"), (0x327c, "참고|주의"),
    (0x32b1, "36|37|38|39|40|41|42|43|44|45|46|47|48|49|50|1月|2月|3月|4月|5月|6月|7月|8月|9月|10月|11月"),
    (0x32cb, "12月|hg|erg|ev|ltd"),
    (0x32ff, "令和|アパート|アルファ|アンペア|アール|イニング|インチ|ウォン|エスクード|エーカー|オンス|オーム|カイリ|カラット|カロリー|ガロン|ガンマ|ギガ|ギニー"),
    (0x3312, "キュリー|ギルダー|キロ|キログラム|キロメートル|キロワット|グラム|グラムトン|クルゼイロ|クローネ|ケース|コルナ|コーポ|サイクル|サンチーム|シリング"),
    (0x3322, "センチ|セント|ダース|デシ|ドル|トン|ナノ|ノット|ハイツ|パーセント|パーツ|バーレル|ピアストル|ピクル|ピコ|ビル|ファラッド|フィート|ブッシェル"),
    (0x3335, "フラン|ヘクタール|ペソ|ペニヒ|ヘルツ|ペンス|ページ|ベータ|ポイント|ボルト|ホン|ポンド|ホール|ホーン|マイクロ|マイル|マッハ|マルク|マンション"),
    (0x3348, "ミクロン|ミリ|ミリバール|メガ|メガトン|メートル|ヤード|ヤール|ユアン|リットル|リラ|ルピー|ルーブル|レム|レントゲン|ワット|0点|1点|2点|3点"),
    (0x335c, "4点|5点|6点|7点|8点|9点|10点|11点|12点|13点|14点|15点|16点|17点|18点|19点|20点|21点|22点|23点|24点|hpa"),
    (0x3372, "da|au|bar|ov|pc|dm|dm2|dm3|iu|平成|昭和|大正|明治|株式会社|pa|na|μa|ma|ka|kb|mb|gb|cal|kcal|pf"),
    (0x338b, "nf|μf|μg|mg|kg|hz|khz|mhz|ghz|thz|μl|ml|dl|kl|fm|nm|μm|mm|cm|km|mm2|cm2|m2|km2|mm3"),
    (0x33a4, "cm3|m3|km3|m∕s|m∕s2|pa|kpa|mpa|gpa|rad|rad∕s|rad∕s2|ps|ns|μs|ms|pv|nv|μv|mv|kv|mv"),
    (0x33ba, "pw|nw|μw|mw|kw|mw|kω|mω"), (0x33c3, "bq|cc|cd|c∕kg"),
    (0x33c8, "db|gy|ha|hp|in|kk|km|kt|lm|ln|log|lx|mb|mil|mol|ph"),
    (0x33d9, "ppm|pr|sr|sv|wb|v∕m|a∕m|1日|2日|3日|4日|5日|6日|7日|8日|9日|10日|11日|12日|13日|14日|15日|16日|17日"),
    (0x33f1, "18日|19日|20日|21日|22日|23日|24日|25日|26日|27日|28日|29日|30日|31日|gal"),
    (0xfb00, "ff|fi|fl|ffi|ffl|st|st"), (0xfb13, "մն|մե|մի|վն|մխ"), (0xfb1d, "\u05d9\u05b4"),
    (0xfb1f, "\u05f2\u05b7"),
    (0xfb2a, "\u05e9\u05c1|\u05e9\u05c2|\u05e9\u05bc\u05c1|\u05e9\u05bc\u05c2|\u05d0\u05b7"),
    (0xfb2f, "\u05d0\u05b8|\u05d0\u05bc|\u05d1\u05bc|\u05d2\u05bc|\u05d3\u05bc|\u05d4\u05bc"),
    (0xfb35, "\u05d5\u05bc|\u05d6\u05bc"),
    (0xfb38, "\u05d8\u05bc|\u05d9\u05bc|\u05da\u05bc|\u05db\u05bc|\u05dc\u05bc"),
    (0xfb3e, "\u05de\u05bc"), (0xfb40, "\u05e0\u05bc|\u05e1\u05bc"),
    (0xfb43, "\u05e3\u05bc|\u05e4\u05bc"),
    (0xfb46, "\u05e6\u05bc|\u05e7\u05bc|\u05e8\u05bc|\u05e9\u05bc|\u05ea\u05bc|\u05d5\u05b9"),
    (0xfb4c, "\u05d1\u05bf|\u05db\u05bf|\u05e4\u05bf|\u05d0\u05dc"), (0xfbdd, "\u06c7\u0674"),
    (0xfbea, "\u0626\u0627|\u0626\u0627|\u0626\u06d5|\u0626\u06d5|\u0626\u0648|\u0626\u0648"),
    (0xfbf0, "\u0626\u06c7|\u0626\u06c7|\u0626\u06c6|\u0626\u06c6|\u0626\u06c8|\u0626\u06c8"),
    (0xfbf6, "\u0626\u06d0|\u0626\u06d0|\u0626\u06d0|\u0626\u0649|\u0626\u0649|\u0626\u0649"),
    (0xfc00, "\u0626\u062c|\u0626\u062d|\u0626\u0645|\u0626\u0649|\u0626\u064a|\u0628\u062c"),
    (0xfc06, "\u0628\u062d|\u0628\u062e|\u0628\u0645|\u0628\u0649|\u0628\u064a|\u062a\u062c"),
    (0xfc0c, "\u062a\u062d|\u062a\u062e|\u062a\u0645|\u062a\u0649|\u062a\u064a|\u062b\u062c"),
    (0xfc12, "\u062b\u0645|\u062b\u0649|\u062b\u064a|\u062c\u062d|\u062c\u0645|\u062d\u062c"),
    (0xfc18, "\u062d\u0645|\u062e\u062c|\u062e\u062d|\u062e\u0645|\u0633\u062c|\u0633\u062d"),
    (0xfc1e, "\u0633\u062e|\u0633\u0645|\u0635\u062d|\u0635\u0645|\u0636\u062c|\u0636\u062d"),
    (0xfc24, "\u0636\u062e|\u0636\u0645|\u0637\u062d|\u0637\u0645|\u0638\u0645|\u0639\u062c"),
    (0xfc2a, "\u0639\u0645|\u063a\u062c|\u063a\u0645|\u0641\u062c|\u0641\u062d|\u0641\u062e"),
    (0xfc30, "\u0641\u0645|\u0641\u0649|\u0641\u064a|\u0642\u062d|\u0642\u0645|\u0642\u0649"),
    (0xfc36, "\u0642\u064a|\u0643\u0627|\u0643\u062c|\u0643\u062d|\u0643\u062e|\u0643\u0644"),
    (0xfc3c, "\u0643\u0645|\u0643\u0649|\u0643\u064a|\u0644\u062c|\u0644\u062d|\u0644\u062e"),
    (0xfc42, "\u0644\u0645|\u0644\u0649|\u0644\u064a|\u0645\u062c|\u0645\u062d|\u0645\u062e"),
    (0xfc48, "\u0645\u0645|\u0645\u0649|\u0645\u064a|\u0646\u062c|\u0646\u062d|\u0646\u062e"),
    (0xfc4e, "\u0646\u0645|\u0646\u0649|\u0646\u064a|\u0647\u062c|\u0647\u0645|\u0647\u0649"),
    (0xfc54, "\u0647\u064a|\u064a\u062c|\u064a\u062d|\u064a\u062e|\u064a\u0645|\u064a\u0649"),
    (0xfc5a, "\u064a\u064a|\u0630\u0670|\u0631\u0670|\u0649\u0670| \u064c\u0651| \u064d\u0651"),
    (0xfc60, " \u064e\u0651| \u064f\u0651| \u0650\u0651| \u0651\u0670|\u0626\u0631|\u0626\u0632"),
    (0xfc66, "\u0626\u0645|\u0626\u0646|\u0626\u0649|\u0626\u064a|\u0628\u0631|\u0628\u0632"),
    (0xfc6c, "\u0628\u0645|\u0628\u0646|\u0628\u0649|\u0628\u064a|\u062a\u0631|\u062a\u0632"),
    (0xfc72, "\u062a\u0645|\u062a\u0646|\u062a\u0649|\u062a\u064a|\u062b\u0631|\u062b\u0632"),
    (0xfc78, "\u062b\u0645|\u062b\u0646|\u062b\u0649|\u062b\u064a|\u0641\u0649|\u0641\u064a"),
    (0xfc7e, "\u0642\u0649|\u0642\u064a|\u0643\u0627|\u0643\u0644|\u0643\u0645|\u0643\u0649"),
    (0xfc84, "\u0643\u064a|\u0644\u0645|\u0644\u0649|\u0644\u064a|\u0645\u0627|\u0645\u0645"),
    (0xfc8a, "\u0646\u0631|\u0646\u0632|\u0646\u0645|\u0646\u0646|\u0646\u0649|\u0646\u064a"),
    (0xfc90, "\u0649\u0670|\u064a\u0631|\u064a\u0632|\u064a\u0645|\u064a\u0646|\u064a\u0649"),
    (0xfc96, "\u064a\u064a|\u0626\u062c|\u0626\u062d|\u0626\u062e|\u0626\u0645|\u0626\u0647"),
    (0xfc9c, "\u0628\u062c|\u0628\u062d|\u0628\u062e|\u0628\u0645|\u0628\u0647|\u062a\u062c"),
    (0xfca2, "\u062a\u062d|\u062a\u062e|\u062a\u0645|\u062a\u0647|\u062b\u0645|\u062c\u062d"),
    (0xfca8, "\u062c\u0645|\u062d\u062c|\u062d\u0645|\u062e\u062c|\u062e\u0645|\u0633\u062c"),
    (0xfcae, "\u0633\u062d|\u0633\u062e|\u0633\u0645|\u0635\u062d|\u0635\u062e|\u0635\u0645"),
    (0xfcb4, "\u0636\u062c|\u0636\u062d|\u0636\u062e|\u0636\u0645|\u0637\u062d|\u0638\u0645"),
    (0xfcba, "\u0639\u062c|\u0639\u0645|\u063a\u062c|\u063a\u0645|\u0641\u062c|\u0641\u062d"),
    (0xfcc0, "\u0641\u062e|\u0641\u0645|\u0642\u062d|\u0642\u0645|\u0643\u062c|\u0643\u062d"),
    (0xfcc6, "\u0643\u062e|\u0643\u0644|\u0643\u0645|\u0644\u062c|\u0644\u062d|\u0644\u062e"),
    (0xfccc, "\u0644\u0645|\u0644\u0647|\u0645\u062c|\u0645\u062d|\u0645\u062e|\u0645\u0645"),
    (0xfcd2, "\u0646\u062c|\u0646\u062d|\u0646\u062e|\u0646\u0645|\u0646\u0647|\u0647\u062c"),
    (0xfcd8, "\u0647\u0645|\u0647\u0670|\u064a\u062c|\u064a\u062d|\u064a\u062e|\u064a\u0645"),
    (0xfcde, "\u064a\u0647|\u0626\u0645|\u0626\u0647|\u0628\u0645|\u0628\u0647|\u062a\u0645"),
    (0xfce4, "\u062a\u0647|\u062b\u0645|\u062b\u0647|\u0633\u0645|\u0633\u0647|\u0634\u0645"),
    (0xfcea, "\u0634\u0647|\u0643\u0644|\u0643\u0645|\u0644\u0645|\u0646\u0645|\u0646\u0647"),
    (0xfcf0, "\u064a\u0645|\u064a\u0647|\u0640\u064e\u0651|\u0640\u064f\u0651|\u0640\u0650\u0651"),
    (0xfcf5, "\u0637\u0649|\u0637\u064a|\u0639\u0649|\u0639\u064a|\u063a\u0649|\u063a\u064a"),
    (0xfcfb, "\u0633\u0649|\u0633\u064a|\u0634\u0649|\u0634\u064a|\u062d\u0649|\u062d\u064a"),
    (0xfd01, "\u062c\u0649|\u062c\u064a|\u062e\u0649|\u062e\u064a|\u0635\u0649|\u0635\u064a"),
    (0xfd07, "\u0636\u0649|\u0636\u064a|\u0634\u062c|\u0634\u062d|\u0634\u062e|\u0634\u0645"),
    (0xfd0d, "\u0634\u0631|\u0633\u0631|\u0635\u0631|\u0636\u0631|\u0637\u0649|\u0637\u064a"),
    (0xfd13, "\u0639\u0649|\u0639\u064a|\u063a\u0649|\u063a\u064a|\u0633\u0649|\u0633\u064a"),
    (0xfd19, "\u0634\u0649|\u0634\u064a|\u062d\u0649|\u062d\u064a|\u062c\u0649|\u062c\u064a"),
    (0xfd1f, "\u062e\u0649|\u062e\u064a|\u0635\u0649|\u0635\u064a|\u0636\u0649|\u0636\u064a"),
    (0xfd25, "\u0634\u062c|\u0634\u062d|\u0634\u062e|\u0634\u0645|\u0634\u0631|\u0633\u0631"),
    (0xfd2b, "\u0635\u0631|\u0636\u0631|\u0634\u062c|\u0634\u062d|\u0634\u062e|\u0634\u0645"),
    (0xfd31, "\u0633\u0647|\u0634\u0647|\u0637\u0645|\u0633\u062c|\u0633\u062d|\u0633\u062e"),
    (0xfd37, "\u0634\u062c|\u0634\u062d|\u0634\u062e|\u0637\u0645|\u0638\u0645|\u0627\u064b"),
    (0xfd3d, "\u0627\u064b"),
    (0xfd50, "\u062a\u062c\u0645|\u062a\u062d\u062c|\u062a\u062d\u062c|\u062a\u062d\u0645"),
    (0xfd54, "\u062a\u062e\u0645|\u062a\u0645\u062c|\u062a\u0645\u062d|\u062a\u0645\u062e"),
    (0xfd58, "\u062c\u0645\u062d|\u062c\u0645\u062d|\u062d\u0645\u064a|\u062d\u0645\u0649"),
    (0xfd5c, "\u0633\u062d\u062c|\u0633\u062c\u062d|\u0633\u062c\u0649|\u0633\u0645\u062d"),
    (0xfd60, "\u0633\u0645\u062d|\u0633\u0645\u062c|\u0633\u0645\u0645|\u0633\u0645\u0645"),
    (0xfd64, "\u0635\u062d\u062d|\u0635\u062d\u062d|\u0635\u0645\u0645|\u0634\u062d\u0645"),
    (0xfd68, "\u0634\u062d\u0645|\u0634\u062c\u064a|\u0634\u0645\u062e|\u0634\u0645\u062e"),
    (0xfd6c, "\u0634\u0645\u0645|\u0634\u0645\u0645|\u0636\u062d\u0649|\u0636\u062e\u0645"),
    (0xfd70, "\u0636\u062e\u0645|\u0637\u0645\u062d|\u0637\u0645\u062d|\u0637\u0645\u0645"),
    (0xfd74, "\u0637\u0645\u064a|\u0639\u062c\u0645|\u0639\u0645\u0645|\u0639\u0645\u0645"),
    (0xfd78, "\u0639\u0645\u0649|\u063a\u0645\u0645|\u063a\u0645\u064a|\u063a\u0645\u0649"),
    (0xfd7c, "\u0641\u062e\u0645|\u0641\u062e\u0645|\u0642\u0645\u062d|\u0642\u0645\u0645"),
    (0xfd80, "\u0644\u062d\u0645|\u0644\u062d\u064a|\u0644\u062d\u0649|\u0644\u062c\u062c"),
    (0xfd84, "\u0644\u062c\u062c|\u0644\u062e\u0645|\u0644\u062e\u0645|\u0644\u0645\u062d"),
    (0xfd88, "\u0644\u0645\u062d|\u0645\u062d\u062c|\u0645\u062d\u0645|\u0645\u062d\u064a"),
    (0xfd8c, "\u0645\u062c\u062d|\u0645\u062c\u0645|\u0645\u062e\u062c|\u0645\u062e\u0645"),
    (0xfd92, "\u0645\u062c\u062e|\u0647\u0645\u062c|\u0647\u0645\u0645|\u0646\u062d\u0645"),
    (0xfd96, "\u0646\u062d\u0649|\u0646\u062c\u0645|\u0646\u062c\u0645|\u0646\u062c\u0649"),
    (0xfd9a, "\u0646\u0645\u064a|\u0646\u0645\u0649|\u064a\u0645\u0645|\u064a\u0645\u0645"),
    (0xfd9e, "\u0628\u062e\u064a|\u062a\u062c\u064a|\u062a\u062c\u0649|\u062a\u062e\u064a"),
    (0xfda2, "\u062a\u062e\u0649|\u062a\u0645\u064a|\u062a\u0645\u0649|\u062c\u0645\u064a"),
    (0xfda6, "\u062c\u062d\u0649|\u062c\u0645\u0649|\u0633\u062e\u0649|\u0635\u062d\u064a"),
    (0xfdaa, "\u0634\u062d\u064a|\u0636\u062d\u064a|\u0644\u062c\u064a|\u0644\u0645\u064a"),
    (0xfdae, "\u064a\u062d\u064a|\u064a\u062c\u064a|\u064a\u0645\u064a|\u0645\u0645\u064a"),
    (0xfdb2, "\u0642\u0645\u064a|\u0646\u062d\u064a|\u0642\u0645\u062d|\u0644\u062d\u0645"),
    (0xfdb6, "\u0639\u0645\u064a|\u0643\u0645\u064a|\u0646\u062c\u062d|\u0645\u062e\u064a"),
    (0xfdba, "\u0644\u062c\u0645|\u0643\u0645\u0645|\u0644\u062c\u0645|\u0646\u062c\u062d"),
    (0xfdbe, "\u062c\u062d\u064a|\u062d\u062c\u064a|\u0645\u062c\u064a|\u0641\u0645\u064a"),
    (0xfdc2, "\u0628\u062d\u064a|\u0643\u0645\u0645|\u0639\u062c\u0645|\u0635\u0645\u0645"),
    (0xfdc6, "\u0633\u062e\u064a|\u0646\u062c\u064a"),
    (0xfdf0, "\u0635\u0644\u06d2|\u0642\u0644\u06d2|\u0627\u0644\u0644\u0647"),
    (0xfdf3, "\u0627\u0643\u0628\u0631|\u0645\u062d\u0645\u062f|\u0635\u0644\u0639\u0645"),
    (0xfdf6, "\u0631\u0633\u0648\u0644|\u0639\u0644\u064a\u0647|\u0648\u0633\u0644\u0645"),
    (0xfdf9, "\u0635\u0644\u0649"),
    (0xfdfa, "\u0635\u0644\u0649 \u0627\u0644\u0644\u0647 "
      ++ "\u0639\u0644\u064a\u0647 \u0648\u0633\u0644\u0645"),
    (0xfdfb, "\u062c\u0644 \u062c\u0644\u0627\u0644\u0647|\u0631\u06cc\u0627\u0644"),
    (0xfe49, " \u0305| \u0305| \u0305| \u0305"), (0xfe70, " \u064b|\u0640\u064b| \u064c"),
    (0xfe74, " \u064d"),
    (0xfe76, " \u064e|\u0640\u064e| \u064f|\u0640\u064f| \u0650|\u0640\u0650| \u0651"),
    (0xfe7d, "\u0640\u0651| \u0652|\u0640\u0652"),
    (0xfef5, "\u0644\u0622|\u0644\u0622|\u0644\u0623|\u0644\u0623|\u0644\u0625|\u0644\u0625"),
    (0xfefb, "\u0644\u0627|\u0644\u0627"), (0xffe3, " \u0304"),
    (0x1d15e, "𝅗𝅥|𝅘𝅥|𝅘𝅥𝅮|𝅘𝅥𝅯|𝅘𝅥𝅰|𝅘𝅥𝅱|𝅘𝅥𝅲"), (0x1d1bb, "𝆹𝅥|𝆺𝅥|𝆹𝅥𝅮|𝆺𝅥𝅮|𝆹𝅥𝅯|𝆺𝅥𝅯"),
    (0x1f101, "0,|1,|2,|3,|4,|5,|6,|7,|8,|9,"),
    (0x1f110, "(a)|(b)|(c)|(d)|(e)|(f)|(g)|(h)|(i)|(j)|(k)|(l)|(m)|(n)|(o)|(p)|(q)|(r)|(s)|(t)"),
    (0x1f124, "(u)|(v)|(w)|(x)|(y)|(z)|〔s〕"), (0x1f12d, "cd|wz"), (0x1f14a, "hv|mv|sd|ss|ppv|wc"),
    (0x1f16a, "mc|md|mr"), (0x1f190, "dj"), (0x1f200, "ほか|ココ"),
    (0x1f240, "〔本〕|〔三〕|〔二〕|〔安〕|〔点〕|〔打〕|〔盗〕|〔勝〕|〔敗〕")
  ]

/-- The characters that stand for nothing, as closed intervals in ascending order. -/
def droppedRanges : Array (Nat × Nat) :=
  #[
    (0xad, 0xad), (0x34f, 0x34f), (0x115f, 0x1160), (0x17b4, 0x17b5), (0x180b, 0x180f),
    (0x200b, 0x200b), (0x2060, 0x2064), (0x206a, 0x206f), (0x3164, 0x3164), (0xfe00, 0xfe0f),
    (0xfeff, 0xfeff), (0xffa0, 0xffa0), (0x1bca0, 0x1bca3), (0x1d173, 0x1d17a), (0xe0100, 0xe01ef)
  ]

/-- What the character with number `n` stands for by a shift. -/
def shifted? (n : Nat) : Option (List Char) := do
  let row ← Text.row? (fun s : Shift => (s.first, s.last)) shifts n
  if (n - row.first) % row.stride = 0 then return [Char.ofNat (row.target + (n - row.first))]
  else none

/-- The texts that a row of a table gives, in order. -/
def singleTexts (row : Nat × String) : List (List Char) := row.2.toList.map ([·])

@[inherit_doc singleTexts]
def severalTexts (row : Nat × String) : List (List Char) := Text.pieces '|' row.2.toList

/-- What the character with number `n` stands for by a table whose rows give `texts`. -/
def listed? (texts : Nat × String → List (List Char)) (table : Array (Nat × String)) (n : Nat) :
    Option (List Char) := do
  let row ← Text.row? (fun row => (row.1, row.1 + (texts row).length - 1)) table n
  (texts row)[n - row.1]?

/-- What `c` stands for, if not for itself. -/
def replacement? (c : Char) : Option (List Char) :=
  let n := c.toNat
  if Text.within droppedRanges n then some []
  else (shifted? n <|> listed? singleTexts single n) <|> listed? severalTexts several n

end CompileSession.Domain
