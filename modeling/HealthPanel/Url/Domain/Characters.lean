import HealthPanel.Text.CodePointSet

/-!
# Characters of domain names

What becomes of each code point of a domain name: most stand for themselves, some are replaced,
some are dropped, and some make the name invalid. Replacements that keep a fixed distance are
listed as runs, other single replacements as consecutive columns, and longer ones one by one.
-/

namespace HealthPanel.Url.Domain

open HealthPanel (CodePointSet)

/-- Code points `first`, `first + step`, … up to `last`, each replaced by the one `offset` away. -/
structure Run where
  first : Nat
  last : Nat
  step : Nat
  offset : Int

/-- Replacements at a fixed distance. -/
def runs : List Run :=
  [⟨0x41, 0x5A, 1, 32⟩, ⟨0xC0, 0xD6, 1, 32⟩, ⟨0xD8, 0xDE, 1, 32⟩, ⟨0x100, 0x12E, 2, 1⟩,
   ⟨0x139, 0x13D, 2, 1⟩, ⟨0x141, 0x147, 2, 1⟩, ⟨0x14A, 0x176, 2, 1⟩, ⟨0x179, 0x17D, 2, 1⟩,
   ⟨0x1A0, 0x1A4, 2, 1⟩, ⟨0x1CD, 0x1DB, 2, 1⟩, ⟨0x1DE, 0x1EE, 2, 1⟩, ⟨0x1F8, 0x21E, 2, 1⟩,
   ⟨0x222, 0x232, 2, 1⟩, ⟨0x246, 0x24E, 2, 1⟩, ⟨0x388, 0x38A, 1, 37⟩, ⟨0x391, 0x3A1, 1, 32⟩,
   ⟨0x3A3, 0x3AB, 1, 32⟩, ⟨0x3D8, 0x3EE, 2, 1⟩, ⟨0x3FD, 0x3FF, 1, -130⟩, ⟨0x400, 0x40F, 1, 80⟩,
   ⟨0x410, 0x42F, 1, 32⟩, ⟨0x460, 0x480, 2, 1⟩, ⟨0x48A, 0x4BE, 2, 1⟩, ⟨0x4C1, 0x4CD, 2, 1⟩,
   ⟨0x4D0, 0x52E, 2, 1⟩, ⟨0x531, 0x556, 1, 48⟩, ⟨0x10A0, 0x10C5, 1, 7264⟩,
   ⟨0x13F8, 0x13FD, 1, -8⟩, ⟨0x1C90, 0x1CBA, 1, -3008⟩, ⟨0x1CBD, 0x1CBF, 1, -3008⟩,
   ⟨0x1D33, 0x1D3A, 1, -7372⟩, ⟨0x1D5D, 0x1D5F, 1, -6571⟩, ⟨0x1DA4, 0x1DA6, 1, -6972⟩,
   ⟨0x1DAE, 0x1DB1, 1, -6972⟩, ⟨0x1DBC, 0x1DBE, 1, -6956⟩, ⟨0x1E00, 0x1E94, 2, 1⟩,
   ⟨0x1EA0, 0x1EFE, 2, 1⟩, ⟨0x1F08, 0x1F0F, 1, -8⟩, ⟨0x1F18, 0x1F1D, 1, -8⟩,
   ⟨0x1F28, 0x1F2F, 1, -8⟩, ⟨0x1F38, 0x1F3F, 1, -8⟩, ⟨0x1F48, 0x1F4D, 1, -8⟩,
   ⟨0x1F59, 0x1F5F, 2, -8⟩, ⟨0x1F68, 0x1F6F, 1, -8⟩, ⟨0x2074, 0x2079, 1, -8256⟩,
   ⟨0x2080, 0x2089, 1, -8272⟩, ⟨0x2096, 0x2099, 1, -8235⟩, ⟨0x2119, 0x211B, 1, -8361⟩,
   ⟨0x2135, 0x2138, 1, -7013⟩, ⟨0x2460, 0x2468, 1, -9263⟩, ⟨0x24B6, 0x24CF, 1, -9301⟩,
   ⟨0x24D0, 0x24E9, 1, -9327⟩, ⟨0x2C00, 0x2C2F, 1, 48⟩, ⟨0x2C67, 0x2C6B, 2, 1⟩,
   ⟨0x2C80, 0x2CE2, 2, 1⟩, ⟨0x3137, 0x3139, 1, -8244⟩, ⟨0x313A, 0x313F, 1, -8074⟩,
   ⟨0x3141, 0x3143, 1, -8251⟩, ⟨0x3145, 0x314E, 1, -8252⟩, ⟨0x314F, 0x3163, 1, -8174⟩,
   ⟨0x3178, 0x317C, 1, -8269⟩, ⟨0x3184, 0x3186, 1, -8237⟩, ⟨0x3263, 0x3265, 1, -8542⟩,
   ⟨0x3269, 0x326D, 1, -8539⟩, ⟨0x32E4, 0x32E9, 1, -538⟩, ⟨0x32EE, 0x32F2, 1, -528⟩,
   ⟨0x32F5, 0x32FA, 1, -525⟩, ⟨0x32FB, 0x32FE, 1, -524⟩, ⟨0xA640, 0xA66C, 2, 1⟩,
   ⟨0xA680, 0xA69A, 2, 1⟩, ⟨0xA722, 0xA72E, 2, 1⟩, ⟨0xA732, 0xA76E, 2, 1⟩, ⟨0xA77E, 0xA786, 2, 1⟩,
   ⟨0xA796, 0xA7A8, 2, 1⟩, ⟨0xA7B4, 0xA7C2, 2, 1⟩, ⟨0xA7CC, 0xA7DA, 2, 1⟩,
   ⟨0xAB70, 0xABBF, 1, -38864⟩, ⟨0xFB24, 0xFB26, 1, -62793⟩, ⟨0xFE41, 0xFE44, 1, -52789⟩,
   ⟨0xFF01, 0xFF20, 1, -65248⟩, ⟨0xFF21, 0xFF3A, 1, -65216⟩, ⟨0xFF3B, 0xFF5E, 1, -65248⟩,
   ⟨0xFF85, 0xFF8A, 1, -52923⟩, ⟨0xFF8F, 0xFF93, 1, -52913⟩, ⟨0xFF96, 0xFF9B, 1, -52910⟩,
   ⟨0xFFA7, 0xFFA9, 1, -61092⟩, ⟨0xFFAA, 0xFFAF, 1, -60922⟩, ⟨0xFFB1, 0xFFB3, 1, -61099⟩,
   ⟨0xFFB5, 0xFFBE, 1, -61100⟩, ⟨0xFFC2, 0xFFC7, 1, -61025⟩, ⟨0xFFCA, 0xFFCF, 1, -61027⟩,
   ⟨0xFFD2, 0xFFD7, 1, -61029⟩, ⟨0xFFDA, 0xFFDC, 1, -61031⟩, ⟨0xFFE9, 0xFFEC, 1, -56921⟩,
   ⟨0x10400, 0x10427, 1, 40⟩, ⟨0x104B0, 0x104D3, 1, 40⟩, ⟨0x10570, 0x1057A, 1, 39⟩,
   ⟨0x1057C, 0x1058A, 1, 39⟩, ⟨0x1058C, 0x10592, 1, 39⟩, ⟨0x107B6, 0x107B8, 1, -67062⟩,
   ⟨0x10C80, 0x10CB2, 1, 64⟩, ⟨0x10D50, 0x10D65, 1, 32⟩, ⟨0x118A0, 0x118BF, 1, 32⟩,
   ⟨0x16E40, 0x16E5F, 1, 32⟩, ⟨0x16EA0, 0x16EB8, 1, 27⟩, ⟨0x1CCD6, 0x1CCEF, 1, -117877⟩,
   ⟨0x1CCF0, 0x1CCF9, 1, -117952⟩, ⟨0x1D400, 0x1D419, 1, -119711⟩, ⟨0x1D41A, 0x1D433, 1, -119737⟩,
   ⟨0x1D434, 0x1D44D, 1, -119763⟩, ⟨0x1D44E, 0x1D454, 1, -119789⟩, ⟨0x1D456, 0x1D467, 1, -119789⟩,
   ⟨0x1D468, 0x1D481, 1, -119815⟩, ⟨0x1D482, 0x1D49B, 1, -119841⟩, ⟨0x1D4A9, 0x1D4AC, 1, -119867⟩,
   ⟨0x1D4AE, 0x1D4B5, 1, -119867⟩, ⟨0x1D4B6, 0x1D4B9, 1, -119893⟩, ⟨0x1D4BD, 0x1D4C3, 1, -119893⟩,
   ⟨0x1D4C5, 0x1D4CF, 1, -119893⟩, ⟨0x1D4D0, 0x1D4E9, 1, -119919⟩, ⟨0x1D4EA, 0x1D503, 1, -119945⟩,
   ⟨0x1D507, 0x1D50A, 1, -119971⟩, ⟨0x1D50D, 0x1D514, 1, -119971⟩, ⟨0x1D516, 0x1D51C, 1, -119971⟩,
   ⟨0x1D51E, 0x1D537, 1, -119997⟩, ⟨0x1D53B, 0x1D53E, 1, -120023⟩, ⟨0x1D540, 0x1D544, 1, -120023⟩,
   ⟨0x1D54A, 0x1D550, 1, -120023⟩, ⟨0x1D552, 0x1D56B, 1, -120049⟩, ⟨0x1D56C, 0x1D585, 1, -120075⟩,
   ⟨0x1D586, 0x1D59F, 1, -120101⟩, ⟨0x1D5A0, 0x1D5B9, 1, -120127⟩, ⟨0x1D5BA, 0x1D5D3, 1, -120153⟩,
   ⟨0x1D5D4, 0x1D5ED, 1, -120179⟩, ⟨0x1D5EE, 0x1D607, 1, -120205⟩, ⟨0x1D608, 0x1D621, 1, -120231⟩,
   ⟨0x1D622, 0x1D63B, 1, -120257⟩, ⟨0x1D63C, 0x1D655, 1, -120283⟩, ⟨0x1D656, 0x1D66F, 1, -120309⟩,
   ⟨0x1D670, 0x1D689, 1, -120335⟩, ⟨0x1D68A, 0x1D6A3, 1, -120361⟩, ⟨0x1D6A8, 0x1D6B8, 1, -119543⟩,
   ⟨0x1D6BA, 0x1D6C0, 1, -119543⟩, ⟨0x1D6C2, 0x1D6D2, 1, -119569⟩, ⟨0x1D6D4, 0x1D6DA, 1, -119569⟩,
   ⟨0x1D6E2, 0x1D6F2, 1, -119601⟩, ⟨0x1D6F4, 0x1D6FA, 1, -119601⟩, ⟨0x1D6FC, 0x1D70C, 1, -119627⟩,
   ⟨0x1D70E, 0x1D714, 1, -119627⟩, ⟨0x1D71C, 0x1D72C, 1, -119659⟩, ⟨0x1D72E, 0x1D734, 1, -119659⟩,
   ⟨0x1D736, 0x1D746, 1, -119685⟩, ⟨0x1D748, 0x1D74E, 1, -119685⟩, ⟨0x1D756, 0x1D766, 1, -119717⟩,
   ⟨0x1D768, 0x1D76E, 1, -119717⟩, ⟨0x1D770, 0x1D780, 1, -119743⟩, ⟨0x1D782, 0x1D788, 1, -119743⟩,
   ⟨0x1D790, 0x1D7A0, 1, -119775⟩, ⟨0x1D7A2, 0x1D7A8, 1, -119775⟩, ⟨0x1D7AA, 0x1D7BA, 1, -119801⟩,
   ⟨0x1D7BC, 0x1D7C2, 1, -119801⟩, ⟨0x1D7CE, 0x1D7D7, 1, -120734⟩, ⟨0x1D7D8, 0x1D7E1, 1, -120744⟩,
   ⟨0x1D7E2, 0x1D7EB, 1, -120754⟩, ⟨0x1D7EC, 0x1D7F5, 1, -120764⟩, ⟨0x1D7F6, 0x1D7FF, 1, -120774⟩,
   ⟨0x1E030, 0x1E038, 1, -121856⟩, ⟨0x1E039, 0x1E03B, 1, -121855⟩, ⟨0x1E03C, 0x1E046, 1, -121854⟩,
   ⟨0x1E051, 0x1E059, 1, -121889⟩, ⟨0x1E05F, 0x1E064, 1, -121884⟩, ⟨0x1E900, 0x1E921, 1, 34⟩,
   ⟨0x1EE0A, 0x1EE0D, 1, -124871⟩, ⟨0x1EE2A, 0x1EE2D, 1, -124903⟩, ⟨0x1EE8B, 0x1EE8D, 1, -124999⟩,
   ⟨0x1EEAB, 0x1EEAD, 1, -125031⟩, ⟨0x1F130, 0x1F149, 1, -127183⟩, ⟨0x1FBF0, 0x1FBF9, 1, -129984⟩]

/-- Replacements of consecutive code points, each by one character. -/
def columns : List (Nat × String) :=
  [(0xA0, " "), (0xAA, "a"), (0xB2, "23"), (0xB5, "μ"), (0xB9, "1o"), (0x134, "ĵ"), (0x136, "ķ"),
   (0x178, "ÿ"), (0x17F, "s"), (0x181, "ɓƃ"), (0x184, "ƅ"), (0x186, "ɔƈ"), (0x189, "ɖɗƌ"),
   (0x18E, "ǝəɛƒ"), (0x193, "ɠɣ"), (0x196, "ɩɨƙ"), (0x19C, "ɯɲ"), (0x19F, "ɵ"), (0x1A6, "ʀƨ"),
   (0x1A9, "ʃ"), (0x1AC, "ƭ"), (0x1AE, "ʈư"), (0x1B1, "ʊʋƴ"), (0x1B5, "ƶ"), (0x1B7, "ʒƹ"),
   (0x1BC, "ƽ"), (0x1F4, "ǵ"), (0x1F6, "ƕƿ"), (0x220, "ƞ"), (0x23A, "ⱥȼ"), (0x23D, "ƚⱦ"),
   (0x241, "ɂ"), (0x243, "ƀʉʌ"), (0x2B0, "hɦjrɹɻʁwy"), (0x2E0, "ɣlsxʕ"), (0x340, "̀́"),
   (0x343, "̓"), (0x345, "ι"), (0x370, "ͱ"), (0x372, "ͳ"), (0x374, "ʹ"), (0x376, "ͷ"),
   (0x37E, ";ϳ"), (0x386, "ά·"), (0x38C, "ό"), (0x38E, "ύώ"), (0x3CF, "ϗβθυύϋφπ"), (0x3F0, "κρσ"),
   (0x3F4, "θε"), (0x3F7, "ϸ"), (0x3F9, "σϻ"), (0x4C0, "ӏ"), (0xF0C, "་"), (0x10C7, "ⴧ"),
   (0x10CD, "ⴭ"), (0x10FC, "ნ"), (0x1C80, "вдосттъѣꙋᲊ"), (0x1D2C, "aæb"), (0x1D30, "deǝ"),
   (0x1D3C, "oȣprtuwaɐɑᴂbdeəɛɜg"), (0x1D4F, "kmŋoɔᴖᴗptuᴝɯvᴥ"), (0x1D60, "φχiruvβγρφχ"),
   (0x1D78, "н"), (0x1D9B, "ɒcɕðɜfɟɡɥ"), (0x1DA7, "ᵻʝɭᶅʟɱɰ"), (0x1DB2, "ɸʂʃƫʉʊᴜʋʌz"),
   (0x1DBF, "θ"), (0x1E9B, "ṡ"), (0x1E9E, "ß"), (0x1F71, "ά"), (0x1F73, "έ"), (0x1F75, "ή"),
   (0x1F77, "ί"), (0x1F79, "ό"), (0x1F7B, "ύ"), (0x1F7D, "ώ"), (0x1FB8, "ᾰᾱὰά"), (0x1FBE, "ι"),
   (0x1FC8, "ὲέὴή"), (0x1FD3, "ΐ"), (0x1FD8, "ῐῑὶί"), (0x1FE3, "ΰ"), (0x1FE8, "ῠῡὺύῥ"),
   (0x1FEF, "`"), (0x1FF8, "ὸόὼώ"), (0x2000, "           "), (0x2011, "‐"), (0x202F, " "),
   (0x205F, " "), (0x2070, "0i"), (0x207A, "+−=()n"), (0x208A, "+−=()"), (0x2090, "aeoxəh"),
   (0x209A, "pst"), (0x2102, "c"), (0x2107, "ɛ"), (0x210A, "ghhhhħiill"), (0x2115, "n"),
   (0x211C, "rr"), (0x2124, "z"), (0x2126, "ω"), (0x2128, "z"), (0x212A, "kåbc"),
   (0x212F, "eefⅎmo"), (0x2139, "i"), (0x213C, "πγγπ∑"), (0x2145, "ddeij"), (0x2160, "i"),
   (0x2164, "v"), (0x2169, "x"), (0x216C, "lcdmi"), (0x2174, "v"), (0x2179, "x"),
   (0x217C, "lcdm"), (0x2183, "ↄ"), (0x2329, "〈〉"), (0x24EA, "0"), (0x2C60, "ⱡ"), (0x2C62, "ɫᵽɽ"),
   (0x2C6D, "ɑɱɐɒ"), (0x2C72, "ⱳ"), (0x2C75, "ⱶ"), (0x2C7C, "jvȿɀ"), (0x2CEB, "ⳬ"), (0x2CED, "ⳮ"),
   (0x2CF2, "ⳳ"), (0x2D6F, "ⵡ"), (0x2E9F, "母"), (0x2EF3, "龟"),
   (0x2F00, "一丨丶丿乙亅二亠人儿入八冂冖冫几凵刀力勹匕匚匸十卜卩厂厶又口"), (0x2F1E, "囗土士夂夊夕大女子宀寸小尢尸屮山巛工己巾干幺广廴廾弋弓彐彡彳"),
   (0x2F3C, "心戈戶手支攴文斗斤方无日曰月木欠止歹殳毋比毛氏气水火爪父爻爿"), (0x2F5A, "片牙牛犬玄玉瓜瓦甘生用田疋疒癶白皮皿目矛矢石示禸禾穴立竹米糸"),
   (0x2F78, "缶网羊羽老而耒耳聿肉臣自至臼舌舛舟艮色艸虍虫血行衣襾見角言谷"), (0x2F96, "豆豕豸貝赤走足身車辛辰辵邑酉釆里金長門阜隶隹雨靑非面革韋韭音"),
   (0x2FB4, "頁風飛食首香馬骨高髟鬥鬯鬲鬼魚鳥鹵鹿麥麻黃黍黑黹黽鼎鼓鼠鼻齊"), (0x2FD2, "齒龍龜龠"), (0x3000, " "), (0x3002, "."),
   (0x3036, "〒"), (0x3038, "十卄卅"), (0x3131, "ᄀᄁᆪᄂᆬᆭ"), (0x3140, "ᄚ"), (0x3144, "ᄡ"),
   (0x3165, "ᄔᄕᇇᇈᇌᇎᇓᇗᇙᄜᇝᇟᄝᄞᄠᄢᄣᄧᄩ"), (0x317D, "ᄲᄶᅀᅇᅌᇱᇲ"), (0x3187, "ᆄᆅᆈᆑᆒᆔᆞᆡ"),
   (0x3192, "一二三四上中下甲乙丙丁天地人"), (0x3244, "問幼文箏"), (0x3260, "ᄀᄂᄃ"), (0x3266, "ᄉᄋᄌ"),
   (0x326E, "가나다라마바사아자차카타파하"), (0x327E, "우"), (0x3280, "一二三四五六七八九十月火水木金土日株有社名特財祝労秘男女適優"),
   (0x329E, "印注項休写正上中下左右医宗学監企資協夜"), (0x32D0, "アイウエオカキクケコサシスセソタチツテト"), (0x32EA, "ヒフヘホ"),
   (0x32F3, "ヤユ"), (0xA69C, "ъь"), (0xA770, "ꝯ"), (0xA779, "ꝺ"), (0xA77B, "ꝼ"), (0xA77D, "ᵹ"),
   (0xA78B, "ꞌ"), (0xA78D, "ɥ"), (0xA790, "ꞑ"), (0xA792, "ꞓ"), (0xA7AA, "ɦɜɡɬɪ"),
   (0xA7B0, "ʞʇʝꭓ"), (0xA7C4, "ꞔʂᶎꟈ"), (0xA7C9, "ꟊ"), (0xA7CB, "ɤ"), (0xA7DC, "ƛ"),
   (0xA7F1, "scfqꟶ"), (0xA7F8, "ħœ"), (0xAB5C, "ꜧꬷɫꭒ"), (0xAB69, "ʍ"),
   (0xF900, "豈更車賈滑串句龜龜契金喇奈懶癩羅蘿螺裸邏樂洛烙珞落酪駱亂卵欄"), (0xF91E, "爛蘭鸞嵐濫藍襤拉臘蠟廊朗浪狼郎來冷勞擄櫓爐盧老蘆虜路露魯鷺碌"),
   (0xF93C, "祿綠菉錄鹿論壟弄籠聾牢磊賂雷壘屢樓淚漏累縷陋勒肋凜凌稜綾菱陵"), (0xF95A, "讀拏樂諾丹寧怒率異北磻便復不泌數索參塞省葉說殺辰沈拾若掠略亮"),
   (0xF978, "兩凉梁糧良諒量勵呂女廬旅濾礪閭驪麗黎力曆歷轢年憐戀撚漣煉璉秊"), (0xF996, "練聯輦蓮連鍊列劣咽烈裂說廉念捻殮簾獵令囹寧嶺怜玲瑩羚聆鈴零靈"),
   (0xF9B4, "領例禮醴隸惡了僚寮尿料樂燎療蓼遼龍暈阮劉杻柳流溜琉留硫紐類六"), (0xF9D2, "戮陸倫崙淪輪律慄栗率隆利吏履易李梨泥理痢罹裏裡里離匿溺吝燐璘"),
   (0xF9F0, "藺隣鱗麟林淋臨立笠粒狀炙識什茶刺切度拓糖宅洞暴輻行降見廓兀嗀"), (0xFA10, "塚"), (0xFA12, "晴"),
   (0xFA15, "凞猪益礼神祥福靖精羽"), (0xFA20, "蘒"), (0xFA22, "諸"), (0xFA25, "逸都"),
   (0xFA2A, "飯飼館鶴郞隷侮僧免勉勤卑喝嘆器塀墨層屮悔慨憎懲敏既暑梅海渚漢"), (0xFA48, "煮爫琢碑社祉祈祐祖祝禍禎穀突節練縉繁署者臭艹艹著褐視謁謹賓贈"),
   (0xFA66, "辶逸難響頻恵𤋮舘"), (0xFA70, "並况全侀充冀勇勺喝啕喙嗢塚墳奄奔婢嬨廒廙彩徭惘慎愈憎慠懲戴揄"),
   (0xFA8E, "搜摒敖晴朗望杖歹殺流滛滋漢瀞煮瞧爵犯猪瑱甆画瘝瘟益盛直睊着磌"), (0xFAAC, "窱節类絛練缾者荒華蝹襁覆視調諸請謁諾諭謹變贈輸遲醙鉶陼難靖韛"),
   (0xFACA, "響頋頻鬒龜𢡊𢡄𣏕㮝䀘䀹𥉉𥳐𧻓齃龎"), (0xFB20, "עאדה"), (0xFB27, "רת+"),
   (0xFB50, "ٱٱٻٻٻٻپپپپڀڀڀڀٺٺٺٺٿٿٿٿٹٹٹٹڤڤڤڤ"), (0xFB6E, "ڦڦڦڦڄڄڄڄڃڃڃڃچچچچڇڇڇڇڍڍڌڌڎڎڈڈژژ"),
   (0xFB8C, "ڑڑککککگگگگڳڳڳڳڱڱڱڱںںڻڻڻڻۀۀہہہہ"), (0xFBAA, "ھھھھےےۓۓ"), (0xFBD3, "ڭڭڭڭۇۇۆۆۈۈ"),
   (0xFBDE, "ۋۋۅۅۉۉېېېېىى"), (0xFBFC, "یییی"), (0xFE10, ",、"), (0xFE13, ":;!?〖〗"),
   (0xFE31, "—–__()\x7b\x7d〔〕【】《》〈〉"), (0xFE47, "[]"), (0xFE4D, "___,、"),
   (0xFE54, ";:?!—()\x7b\x7d〔〕#&*+-<>="), (0xFE68, "\\$%@"),
   (0xFE80, "ءآآأأؤؤإإئئئئااببببةةتتتتثثثثج"), (0xFE9E, "جججححححخخخخددذذررززسسسسششششصصص"),
   (0xFEBC, "صضضضضططططظظظظععععغغغغففففققققك"), (0xFEDA, "كككللللممممننننههههووىىيييي"),
   (0xFF5F, "⦅⦆.「」、・ヲァィゥェォャュョッーアイウエオカキクケコサシ"), (0xFF7D, "スセソタチツテト"), (0xFF8B, "ヒフヘホ"),
   (0xFF94, "ヤユ"), (0xFF9C, "ワン゙゚"), (0xFFA1, "ᄀᄁᆪᄂᆬᆭ"), (0xFFB0, "ᄚ"), (0xFFB4, "ᄡ"),
   (0xFFE0, "¢£¬"), (0xFFE4, "¦¥₩"), (0xFFE8, "│"), (0xFFED, "■○"), (0x10594, "𐖻𐖼"),
   (0x10781, "ːˑæʙɓ"), (0x10787, "ʣꭦʥʤɖɗᶑɘɞʩɤɢɠʛħʜɧʄʪʫɬ𝼄ꞎɮ𝼅ʎ𝼆øɶɷ"), (0x107A5, "qɺ𝼈ɽɾʀʨʦꭧʧʈⱱ"),
   (0x107B2, "ʏʡʢʘ"), (0x107B9, "𝼊𝼞"), (0x1D49C, "a"), (0x1D49E, "cd"), (0x1D4A2, "g"),
   (0x1D4A5, "jk"), (0x1D4BB, "f"), (0x1D504, "ab"), (0x1D538, "ab"), (0x1D546, "o"),
   (0x1D6A4, "ıȷ"), (0x1D6B9, "θ"), (0x1D6C1, "∇"), (0x1D6D3, "σ"), (0x1D6DB, "∂εθκφρπ"),
   (0x1D6F3, "θ"), (0x1D6FB, "∇"), (0x1D70D, "σ"), (0x1D715, "∂εθκφρπ"), (0x1D72D, "θ"),
   (0x1D735, "∇"), (0x1D747, "σ"), (0x1D74F, "∂εθκφρπ"), (0x1D767, "θ"), (0x1D76F, "∇"),
   (0x1D781, "σ"), (0x1D789, "∂εθκφρπ"), (0x1D7A1, "θ"), (0x1D7A9, "∇"), (0x1D7BB, "σ"),
   (0x1D7C3, "∂εθκφρπϝϝ"), (0x1E047, "ыэюꚉәіјөүӏ"), (0x1E05A, "клопс"), (0x1E065, "ъыґіѕџҫꙑұ"),
   (0x1EE00, "ابجد"), (0x1EE05, "وزحطي"), (0x1EE0E, "سعفصقرشتثخذضظغٮںڡٯ"), (0x1EE21, "بج"),
   (0x1EE24, "ه"), (0x1EE27, "ح"), (0x1EE29, "ي"), (0x1EE2E, "سعفصق"), (0x1EE34, "شتثخ"),
   (0x1EE39, "ض"), (0x1EE3B, "غ"), (0x1EE42, "ج"), (0x1EE47, "ح"), (0x1EE49, "ي"), (0x1EE4B, "ل"),
   (0x1EE4D, "نسع"), (0x1EE51, "صق"), (0x1EE54, "ش"), (0x1EE57, "خ"), (0x1EE59, "ض"),
   (0x1EE5B, "غ"), (0x1EE5D, "ں"), (0x1EE5F, "ٯ"), (0x1EE61, "بج"), (0x1EE64, "ه"),
   (0x1EE67, "حطيك"), (0x1EE6C, "منسعفصق"), (0x1EE74, "شتثخ"), (0x1EE79, "ضظغٮ"), (0x1EE7E, "ڡ"),
   (0x1EE80, "ابجدهوزحطي"), (0x1EE8E, "سعفصقرشتثخذضظغ"), (0x1EEA1, "بجد"), (0x1EEA5, "وزحطي"),
   (0x1EEAE, "سعفصقرشتثخذضظغ"), (0x1F12B, "cr"), (0x1F202, "サ"),
   (0x1F210, "手字双デ二多解天交映無料前後再新初終生販声吹演投捕一三遊左中"), (0x1F22E, "右指走打禁空合満有月申割営配"), (0x1F250, "得可"),
   (0x2F800, "丽丸乁𠄢你侮侻倂偺備僧像㒞𠘺免兔兤具𠔜㒹內再𠕋冗冤仌冬况𩇟凵"), (0x2F81E, "刃㓟刻剆割剷㔕勇勉勤勺包匆北卉卑博即卽卿卿卿𠨬灰及叟𠭣叫叱吆"),
   (0x2F83C, "咞吸呈周咢哶唐啓啣善善喙喫喳嗂圖嘆圗噑噴切壮城埴堍型堲報墬𡓤"), (0x2F85A, "売壷夆多夢奢𡚨𡛪姬娛娧姘婦㛮㛼嬈嬾嬾𡧈寃寘寧寳𡬘寿将当尢㞁屠"),
   (0x2F878, "屮峀岍𡷤嵃𡷦嵮嵫嵼巡巢㠯巽帨帽幩㡢𢆃㡼庰庳庶廊𪎒廾𢌱𢌱舁弢弢"), (0x2F896, "㣇𣊸𦇚形彫㣣徚忍志忹悁㤺㤜悔𢛔惇慈慌慎慌慺憎憲憤憯懞懲懶成戛"),
   (0x2F8B4, "扝抱拔捐𢬌挽拼捨掃揤𢯱搢揅掩㨮摩摾撝摷㩬敏敬𣀊旣書晉㬙暑㬈㫤"), (0x2F8D2, "冒冕最暜肭䏙朗望朡杞杓𣏃㭉柺枅桒梅𣑭梎栟椔㮝楂榣槪檨𣚣櫛㰘次"),
   (0x2F8F0, "𣢧歔㱎歲殟殺殻𣪍𡴋𣫺汎𣲼沿泍汧洖派海流浩浸涅𣴞洴港湮㴳滋滇𣻑"), (0x2F90E, "淹潮𣽞𣾎濆瀹瀞瀛㶖灊災灷炭𠔥煅𤉣熜𤎫爨爵牐𤘈犀犕𤜵𤠔獺王㺬玥"),
   (0x2F92C, "㺸㺸瑇瑜瑱璅瓊㼛甤𤰶甾𤲒異𢆟瘐𤾡𤾸𥁄㿼䀈直𥃳𥃲𥄙𥄳眞真真睊䀹"), (0x2F94A, "瞋䁆䂖𥐝硎碌磌䃣𥘦祖𥚚𥛅福秫䄯穀穊穏𥥼𥪧𥪧竮䈂𥮫篆築䈧𥲀糒䊠"),
   (0x2F968, "糨糣紀𥾆絣䌁緇縂繅䌴𦈨𦉇䍙𦋙罺𦌾羕翺者𦓚𦔣聠𦖨聰𣍟䏕育脃䐋脾"), (0x2F986, "媵𦞧𦞵𣎓𣎜舁舄辞䑫芑芋芝劳花芳芽苦𦬼若茝荣莭茣莽菧著荓菊菌菜"),
   (0x2F9A4, "𦰶𦵫𦳕䔫蓱蓳蔖𧏊蕤𦼬䕝䕡𦾱𧃒䕫虐虜虧虩蚩蚈蜎蛢蝹蜨蝫螆䗗蟡蠁"), (0x2F9C2, "䗹衠衣𧙧裗裞䘵裺㒻𧢮𧥦䚾䛇誠諭變豕𧲨貫賁贛起𧼯𠠄跋趼跰𠣞軔輸"),
   (0x2F9E0, "𨗒𨗭邔郱鄑𨜮鄛鈸鋗鋘鉼鏹鐕𨯺開䦕閷𨵷䧦雃嶲霣𩅅𩈚䩮䩶韠𩐊䪲𩒖"), (0x2F9FE, "頋頋頩𩖶飢䬳餩馧駂駾䯎𩬰鬒鱀鳽䳎䳭鵧𪃎䳸𪄅𪈎𪊑麻䵖黹黾鼅鼏鼖"),
   (0x2FA1C, "鼻𪘀")]

/-- Replacements by several characters, or by none. -/
def phrasesOne : List (Nat × String) :=
  [(0xA8, " ̈"), (0xAF, " ̄"), (0xB4, " ́"), (0xB8, " ̧"), (0xBC, "1⁄4"), (0xBD, "1⁄2"),
   (0xBE, "3⁄4"), (0x130, "i̇"), (0x132, "ij"), (0x133, "ij"), (0x13F, "l·"), (0x140, "l·"),
   (0x149, "ʼn"), (0x1C4, "dž"), (0x1C5, "dž"), (0x1C6, "dž"), (0x1C7, "lj"), (0x1C8, "lj"),
   (0x1C9, "lj"), (0x1CA, "nj"), (0x1CB, "nj"), (0x1CC, "nj"), (0x1F1, "dz"), (0x1F2, "dz"),
   (0x1F3, "dz"), (0x2D8, " ̆"), (0x2D9, " ̇"), (0x2DA, " ̊"), (0x2DB, " ̨"), (0x2DC, " ̃"),
   (0x2DD, " ̋"), (0x344, "̈́"), (0x37A, " ι"), (0x384, " ́"), (0x385, " ̈́"), (0x587, "եւ"),
   (0x675, "اٴ"), (0x676, "وٴ"), (0x677, "ۇٴ"), (0x678, "يٴ"), (0x958, "क़"), (0x959, "ख़"),
   (0x95A, "ग़"), (0x95B, "ज़"), (0x95C, "ड़"), (0x95D, "ढ़"), (0x95E, "फ़"), (0x95F, "य़"),
   (0x9DC, "ড়"), (0x9DD, "ঢ়"), (0x9DF, "য়"), (0xA33, "ਲ਼"), (0xA36, "ਸ਼"), (0xA59, "ਖ਼"),
   (0xA5A, "ਗ਼"), (0xA5B, "ਜ਼"), (0xA5E, "ਫ਼"), (0xB5C, "ଡ଼"), (0xB5D, "ଢ଼"), (0xE33, "ํา"),
   (0xEB3, "ໍາ"), (0xEDC, "ຫນ"), (0xEDD, "ຫມ"), (0xF43, "གྷ"), (0xF4D, "ཌྷ"), (0xF52, "དྷ"),
   (0xF57, "བྷ"), (0xF5C, "ཛྷ"), (0xF69, "ཀྵ"), (0xF73, "ཱི"), (0xF75, "ཱུ"), (0xF76, "ྲྀ"),
   (0xF77, "ྲཱྀ"), (0xF78, "ླྀ"), (0xF79, "ླཱྀ"), (0xF81, "ཱྀ"), (0xF93, "ྒྷ"), (0xF9D, "ྜྷ"),
   (0xFA2, "ྡྷ"), (0xFA7, "ྦྷ"), (0xFAC, "ྫྷ"), (0xFB9, "ྐྵ"), (0x1E9A, "aʾ"), (0x1F80, "ἀι"),
   (0x1F81, "ἁι"), (0x1F82, "ἂι"), (0x1F83, "ἃι"), (0x1F84, "ἄι"), (0x1F85, "ἅι"), (0x1F86, "ἆι"),
   (0x1F87, "ἇι"), (0x1F88, "ἀι"), (0x1F89, "ἁι"), (0x1F8A, "ἂι"), (0x1F8B, "ἃι"), (0x1F8C, "ἄι"),
   (0x1F8D, "ἅι"), (0x1F8E, "ἆι"), (0x1F8F, "ἇι"), (0x1F90, "ἠι"), (0x1F91, "ἡι"), (0x1F92, "ἢι"),
   (0x1F93, "ἣι"), (0x1F94, "ἤι"), (0x1F95, "ἥι"), (0x1F96, "ἦι"), (0x1F97, "ἧι"), (0x1F98, "ἠι"),
   (0x1F99, "ἡι"), (0x1F9A, "ἢι"), (0x1F9B, "ἣι"), (0x1F9C, "ἤι"), (0x1F9D, "ἥι"), (0x1F9E, "ἦι"),
   (0x1F9F, "ἧι"), (0x1FA0, "ὠι"), (0x1FA1, "ὡι"), (0x1FA2, "ὢι"), (0x1FA3, "ὣι"), (0x1FA4, "ὤι"),
   (0x1FA5, "ὥι"), (0x1FA6, "ὦι"), (0x1FA7, "ὧι"), (0x1FA8, "ὠι"), (0x1FA9, "ὡι"), (0x1FAA, "ὢι"),
   (0x1FAB, "ὣι"), (0x1FAC, "ὤι"), (0x1FAD, "ὥι"), (0x1FAE, "ὦι"), (0x1FAF, "ὧι"), (0x1FB2, "ὰι"),
   (0x1FB3, "αι"), (0x1FB4, "άι"), (0x1FB7, "ᾶι"), (0x1FBC, "αι"), (0x1FBD, " ̓"), (0x1FBF, " ̓"),
   (0x1FC0, " ͂"), (0x1FC1, " ̈͂"), (0x1FC2, "ὴι"), (0x1FC3, "ηι"), (0x1FC4, "ήι"),
   (0x1FC7, "ῆι"), (0x1FCC, "ηι"), (0x1FCD, " ̓̀"), (0x1FCE, " ̓́"), (0x1FCF, " ̓͂"),
   (0x1FDD, " ̔̀"), (0x1FDE, " ̔́"), (0x1FDF, " ̔͂"), (0x1FED, " ̈̀"), (0x1FEE, " ̈́"),
   (0x1FF2, "ὼι"), (0x1FF3, "ωι"), (0x1FF4, "ώι"), (0x1FF7, "ῶι"), (0x1FFC, "ωι"), (0x1FFD, " ́"),
   (0x1FFE, " ̔"), (0x2017, " ̳"), (0x2033, "′′"), (0x2034, "′′′"), (0x2036, "‵‵"),
   (0x2037, "‵‵‵"), (0x203C, "!!"), (0x203E, " ̅"), (0x2047, "??"), (0x2048, "?!"),
   (0x2049, "!?"), (0x2057, "′′′′"), (0x20A8, "rs"), (0x2100, "a/c"), (0x2101, "a/s"),
   (0x2103, "°c"), (0x2105, "c/o"), (0x2106, "c/u"), (0x2109, "°f"), (0x2116, "no"),
   (0x2120, "sm"), (0x2121, "tel"), (0x2122, "tm"), (0x213B, "fax"), (0x2150, "1⁄7"),
   (0x2151, "1⁄9"), (0x2152, "1⁄10"), (0x2153, "1⁄3"), (0x2154, "2⁄3"), (0x2155, "1⁄5"),
   (0x2156, "2⁄5"), (0x2157, "3⁄5"), (0x2158, "4⁄5"), (0x2159, "1⁄6"), (0x215A, "5⁄6"),
   (0x215B, "1⁄8"), (0x215C, "3⁄8"), (0x215D, "5⁄8"), (0x215E, "7⁄8"), (0x215F, "1⁄"),
   (0x2161, "ii"), (0x2162, "iii"), (0x2163, "iv"), (0x2165, "vi"), (0x2166, "vii"),
   (0x2167, "viii"), (0x2168, "ix"), (0x216A, "xi"), (0x216B, "xii"), (0x2171, "ii"),
   (0x2172, "iii"), (0x2173, "iv"), (0x2175, "vi"), (0x2176, "vii"), (0x2177, "viii"),
   (0x2178, "ix"), (0x217A, "xi"), (0x217B, "xii"), (0x2189, "0⁄3"), (0x222C, "∫∫"),
   (0x222D, "∫∫∫"), (0x222F, "∮∮"), (0x2230, "∮∮∮"), (0x2469, "10"), (0x246A, "11"),
   (0x246B, "12"), (0x246C, "13"), (0x246D, "14"), (0x246E, "15"), (0x246F, "16"), (0x2470, "17"),
   (0x2471, "18"), (0x2472, "19"), (0x2473, "20"), (0x2474, "(1)"), (0x2475, "(2)"),
   (0x2476, "(3)"), (0x2477, "(4)"), (0x2478, "(5)"), (0x2479, "(6)"), (0x247A, "(7)"),
   (0x247B, "(8)"), (0x247C, "(9)"), (0x247D, "(10)"), (0x247E, "(11)"), (0x247F, "(12)"),
   (0x2480, "(13)"), (0x2481, "(14)"), (0x2482, "(15)"), (0x2483, "(16)"), (0x2484, "(17)"),
   (0x2485, "(18)"), (0x2486, "(19)"), (0x2487, "(20)"), (0x249C, "(a)"), (0x249D, "(b)"),
   (0x249E, "(c)"), (0x249F, "(d)"), (0x24A0, "(e)"), (0x24A1, "(f)"), (0x24A2, "(g)")]

/-- Replacements by several characters, or by none. -/
def phrasesTwo : List (Nat × String) :=
  [(0x24A3, "(h)"), (0x24A4, "(i)"), (0x24A5, "(j)"), (0x24A6, "(k)"), (0x24A7, "(l)"),
   (0x24A8, "(m)"), (0x24A9, "(n)"), (0x24AA, "(o)"), (0x24AB, "(p)"), (0x24AC, "(q)"),
   (0x24AD, "(r)"), (0x24AE, "(s)"), (0x24AF, "(t)"), (0x24B0, "(u)"), (0x24B1, "(v)"),
   (0x24B2, "(w)"), (0x24B3, "(x)"), (0x24B4, "(y)"), (0x24B5, "(z)"), (0x2A0C, "∫∫∫∫"),
   (0x2A74, "::="), (0x2A75, "=="), (0x2A76, "==="), (0x2ADC, "⫝̸"), (0x309B, " ゙"),
   (0x309C, " ゚"), (0x309F, "より"), (0x30FF, "コト"), (0x3200, "(ᄀ)"), (0x3201, "(ᄂ)"),
   (0x3202, "(ᄃ)"), (0x3203, "(ᄅ)"), (0x3204, "(ᄆ)"), (0x3205, "(ᄇ)"), (0x3206, "(ᄉ)"),
   (0x3207, "(ᄋ)"), (0x3208, "(ᄌ)"), (0x3209, "(ᄎ)"), (0x320A, "(ᄏ)"), (0x320B, "(ᄐ)"),
   (0x320C, "(ᄑ)"), (0x320D, "(ᄒ)"), (0x320E, "(가)"), (0x320F, "(나)"), (0x3210, "(다)"),
   (0x3211, "(라)"), (0x3212, "(마)"), (0x3213, "(바)"), (0x3214, "(사)"), (0x3215, "(아)"),
   (0x3216, "(자)"), (0x3217, "(차)"), (0x3218, "(카)"), (0x3219, "(타)"), (0x321A, "(파)"),
   (0x321B, "(하)"), (0x321C, "(주)"), (0x321D, "(오전)"), (0x321E, "(오후)"), (0x3220, "(一)"),
   (0x3221, "(二)"), (0x3222, "(三)"), (0x3223, "(四)"), (0x3224, "(五)"), (0x3225, "(六)"),
   (0x3226, "(七)"), (0x3227, "(八)"), (0x3228, "(九)"), (0x3229, "(十)"), (0x322A, "(月)"),
   (0x322B, "(火)"), (0x322C, "(水)"), (0x322D, "(木)"), (0x322E, "(金)"), (0x322F, "(土)"),
   (0x3230, "(日)"), (0x3231, "(株)"), (0x3232, "(有)"), (0x3233, "(社)"), (0x3234, "(名)"),
   (0x3235, "(特)"), (0x3236, "(財)"), (0x3237, "(祝)"), (0x3238, "(労)"), (0x3239, "(代)"),
   (0x323A, "(呼)"), (0x323B, "(学)"), (0x323C, "(監)"), (0x323D, "(企)"), (0x323E, "(資)"),
   (0x323F, "(協)"), (0x3240, "(祭)"), (0x3241, "(休)"), (0x3242, "(自)"), (0x3243, "(至)"),
   (0x3250, "pte"), (0x3251, "21"), (0x3252, "22"), (0x3253, "23"), (0x3254, "24"),
   (0x3255, "25"), (0x3256, "26"), (0x3257, "27"), (0x3258, "28"), (0x3259, "29"), (0x325A, "30"),
   (0x325B, "31"), (0x325C, "32"), (0x325D, "33"), (0x325E, "34"), (0x325F, "35"), (0x327C, "참고"),
   (0x327D, "주의"), (0x32B1, "36"), (0x32B2, "37"), (0x32B3, "38"), (0x32B4, "39"), (0x32B5, "40"),
   (0x32B6, "41"), (0x32B7, "42"), (0x32B8, "43"), (0x32B9, "44"), (0x32BA, "45"), (0x32BB, "46"),
   (0x32BC, "47"), (0x32BD, "48"), (0x32BE, "49"), (0x32BF, "50"), (0x32C0, "1月"), (0x32C1, "2月"),
   (0x32C2, "3月"), (0x32C3, "4月"), (0x32C4, "5月"), (0x32C5, "6月"), (0x32C6, "7月"), (0x32C7, "8月"),
   (0x32C8, "9月"), (0x32C9, "10月"), (0x32CA, "11月"), (0x32CB, "12月"), (0x32CC, "hg"),
   (0x32CD, "erg"), (0x32CE, "ev"), (0x32CF, "ltd"), (0x32FF, "令和"), (0x3300, "アパート"),
   (0x3301, "アルファ"), (0x3302, "アンペア"), (0x3303, "アール"), (0x3304, "イニング"), (0x3305, "インチ"),
   (0x3306, "ウォン"), (0x3307, "エスクード"), (0x3308, "エーカー"), (0x3309, "オンス"), (0x330A, "オーム"),
   (0x330B, "カイリ"), (0x330C, "カラット"), (0x330D, "カロリー"), (0x330E, "ガロン"), (0x330F, "ガンマ"),
   (0x3310, "ギガ"), (0x3311, "ギニー"), (0x3312, "キュリー"), (0x3313, "ギルダー"), (0x3314, "キロ"),
   (0x3315, "キログラム"), (0x3316, "キロメートル"), (0x3317, "キロワット"), (0x3318, "グラム"), (0x3319, "グラムトン"),
   (0x331A, "クルゼイロ"), (0x331B, "クローネ"), (0x331C, "ケース"), (0x331D, "コルナ"), (0x331E, "コーポ"),
   (0x331F, "サイクル"), (0x3320, "サンチーム"), (0x3321, "シリング"), (0x3322, "センチ"), (0x3323, "セント"),
   (0x3324, "ダース"), (0x3325, "デシ"), (0x3326, "ドル"), (0x3327, "トン"), (0x3328, "ナノ"),
   (0x3329, "ノット"), (0x332A, "ハイツ"), (0x332B, "パーセント"), (0x332C, "パーツ"), (0x332D, "バーレル"),
   (0x332E, "ピアストル"), (0x332F, "ピクル"), (0x3330, "ピコ"), (0x3331, "ビル"), (0x3332, "ファラッド"),
   (0x3333, "フィート"), (0x3334, "ブッシェル"), (0x3335, "フラン"), (0x3336, "ヘクタール"), (0x3337, "ペソ"),
   (0x3338, "ペニヒ"), (0x3339, "ヘルツ"), (0x333A, "ペンス"), (0x333B, "ページ"), (0x333C, "ベータ"),
   (0x333D, "ポイント"), (0x333E, "ボルト"), (0x333F, "ホン"), (0x3340, "ポンド"), (0x3341, "ホール"),
   (0x3342, "ホーン"), (0x3343, "マイクロ"), (0x3344, "マイル"), (0x3345, "マッハ"), (0x3346, "マルク"),
   (0x3347, "マンション"), (0x3348, "ミクロン"), (0x3349, "ミリ"), (0x334A, "ミリバール"), (0x334B, "メガ"),
   (0x334C, "メガトン"), (0x334D, "メートル"), (0x334E, "ヤード"), (0x334F, "ヤール"), (0x3350, "ユアン"),
   (0x3351, "リットル"), (0x3352, "リラ"), (0x3353, "ルピー"), (0x3354, "ルーブル"), (0x3355, "レム"),
   (0x3356, "レントゲン"), (0x3357, "ワット"), (0x3358, "0点"), (0x3359, "1点"), (0x335A, "2点"),
   (0x335B, "3点"), (0x335C, "4点"), (0x335D, "5点"), (0x335E, "6点"), (0x335F, "7点"), (0x3360, "8点"),
   (0x3361, "9点"), (0x3362, "10点"), (0x3363, "11点"), (0x3364, "12点"), (0x3365, "13点"),
   (0x3366, "14点"), (0x3367, "15点"), (0x3368, "16点"), (0x3369, "17点"), (0x336A, "18点"),
   (0x336B, "19点"), (0x336C, "20点"), (0x336D, "21点"), (0x336E, "22点"), (0x336F, "23点"),
   (0x3370, "24点"), (0x3371, "hpa"), (0x3372, "da")]

/-- Replacements by several characters, or by none. -/
def phrasesThree : List (Nat × String) :=
  [(0x3373, "au"), (0x3374, "bar"), (0x3375, "ov"), (0x3376, "pc"), (0x3377, "dm"),
   (0x3378, "dm2"), (0x3379, "dm3"), (0x337A, "iu"), (0x337B, "平成"), (0x337C, "昭和"),
   (0x337D, "大正"), (0x337E, "明治"), (0x337F, "株式会社"), (0x3380, "pa"), (0x3381, "na"),
   (0x3382, "μa"), (0x3383, "ma"), (0x3384, "ka"), (0x3385, "kb"), (0x3386, "mb"), (0x3387, "gb"),
   (0x3388, "cal"), (0x3389, "kcal"), (0x338A, "pf"), (0x338B, "nf"), (0x338C, "μf"),
   (0x338D, "μg"), (0x338E, "mg"), (0x338F, "kg"), (0x3390, "hz"), (0x3391, "khz"),
   (0x3392, "mhz"), (0x3393, "ghz"), (0x3394, "thz"), (0x3395, "μl"), (0x3396, "ml"),
   (0x3397, "dl"), (0x3398, "kl"), (0x3399, "fm"), (0x339A, "nm"), (0x339B, "μm"), (0x339C, "mm"),
   (0x339D, "cm"), (0x339E, "km"), (0x339F, "mm2"), (0x33A0, "cm2"), (0x33A1, "m2"),
   (0x33A2, "km2"), (0x33A3, "mm3"), (0x33A4, "cm3"), (0x33A5, "m3"), (0x33A6, "km3"),
   (0x33A7, "m∕s"), (0x33A8, "m∕s2"), (0x33A9, "pa"), (0x33AA, "kpa"), (0x33AB, "mpa"),
   (0x33AC, "gpa"), (0x33AD, "rad"), (0x33AE, "rad∕s"), (0x33AF, "rad∕s2"), (0x33B0, "ps"),
   (0x33B1, "ns"), (0x33B2, "μs"), (0x33B3, "ms"), (0x33B4, "pv"), (0x33B5, "nv"), (0x33B6, "μv"),
   (0x33B7, "mv"), (0x33B8, "kv"), (0x33B9, "mv"), (0x33BA, "pw"), (0x33BB, "nw"), (0x33BC, "μw"),
   (0x33BD, "mw"), (0x33BE, "kw"), (0x33BF, "mw"), (0x33C0, "kω"), (0x33C1, "mω"), (0x33C3, "bq"),
   (0x33C4, "cc"), (0x33C5, "cd"), (0x33C6, "c∕kg"), (0x33C8, "db"), (0x33C9, "gy"),
   (0x33CA, "ha"), (0x33CB, "hp"), (0x33CC, "in"), (0x33CD, "kk"), (0x33CE, "km"), (0x33CF, "kt"),
   (0x33D0, "lm"), (0x33D1, "ln"), (0x33D2, "log"), (0x33D3, "lx"), (0x33D4, "mb"),
   (0x33D5, "mil"), (0x33D6, "mol"), (0x33D7, "ph"), (0x33D9, "ppm"), (0x33DA, "pr"),
   (0x33DB, "sr"), (0x33DC, "sv"), (0x33DD, "wb"), (0x33DE, "v∕m"), (0x33DF, "a∕m"),
   (0x33E0, "1日"), (0x33E1, "2日"), (0x33E2, "3日"), (0x33E3, "4日"), (0x33E4, "5日"), (0x33E5, "6日"),
   (0x33E6, "7日"), (0x33E7, "8日"), (0x33E8, "9日"), (0x33E9, "10日"), (0x33EA, "11日"),
   (0x33EB, "12日"), (0x33EC, "13日"), (0x33ED, "14日"), (0x33EE, "15日"), (0x33EF, "16日"),
   (0x33F0, "17日"), (0x33F1, "18日"), (0x33F2, "19日"), (0x33F3, "20日"), (0x33F4, "21日"),
   (0x33F5, "22日"), (0x33F6, "23日"), (0x33F7, "24日"), (0x33F8, "25日"), (0x33F9, "26日"),
   (0x33FA, "27日"), (0x33FB, "28日"), (0x33FC, "29日"), (0x33FD, "30日"), (0x33FE, "31日"),
   (0x33FF, "gal"), (0xFB00, "ff"), (0xFB01, "fi"), (0xFB02, "fl"), (0xFB03, "ffi"),
   (0xFB04, "ffl"), (0xFB05, "st"), (0xFB06, "st"), (0xFB13, "մն"), (0xFB14, "մե"),
   (0xFB15, "մի"), (0xFB16, "վն"), (0xFB17, "մխ"), (0xFB1D, "יִ"), (0xFB1F, "ײַ"), (0xFB2A, "שׁ"),
   (0xFB2B, "שׂ"), (0xFB2C, "שּׁ"), (0xFB2D, "שּׂ"), (0xFB2E, "אַ"), (0xFB2F, "אָ"),
   (0xFB30, "אּ"), (0xFB31, "בּ"), (0xFB32, "גּ"), (0xFB33, "דּ"), (0xFB34, "הּ"), (0xFB35, "וּ"),
   (0xFB36, "זּ"), (0xFB38, "טּ"), (0xFB39, "יּ"), (0xFB3A, "ךּ"), (0xFB3B, "כּ"), (0xFB3C, "לּ"),
   (0xFB3E, "מּ"), (0xFB40, "נּ"), (0xFB41, "סּ"), (0xFB43, "ףּ"), (0xFB44, "פּ"), (0xFB46, "צּ"),
   (0xFB47, "קּ"), (0xFB48, "רּ"), (0xFB49, "שּ"), (0xFB4A, "תּ"), (0xFB4B, "וֹ"), (0xFB4C, "בֿ"),
   (0xFB4D, "כֿ"), (0xFB4E, "פֿ"), (0xFB4F, "אל"), (0xFBDD, "ۇٴ"), (0xFBEA, "ئا"), (0xFBEB, "ئا"),
   (0xFBEC, "ئە"), (0xFBED, "ئە"), (0xFBEE, "ئو"), (0xFBEF, "ئو"), (0xFBF0, "ئۇ"), (0xFBF1, "ئۇ"),
   (0xFBF2, "ئۆ"), (0xFBF3, "ئۆ"), (0xFBF4, "ئۈ"), (0xFBF5, "ئۈ"), (0xFBF6, "ئې"), (0xFBF7, "ئې"),
   (0xFBF8, "ئې"), (0xFBF9, "ئى"), (0xFBFA, "ئى"), (0xFBFB, "ئى"), (0xFC00, "ئج"), (0xFC01, "ئح"),
   (0xFC02, "ئم"), (0xFC03, "ئى"), (0xFC04, "ئي"), (0xFC05, "بج"), (0xFC06, "بح"), (0xFC07, "بخ"),
   (0xFC08, "بم"), (0xFC09, "بى"), (0xFC0A, "بي"), (0xFC0B, "تج"), (0xFC0C, "تح"), (0xFC0D, "تخ"),
   (0xFC0E, "تم"), (0xFC0F, "تى"), (0xFC10, "تي"), (0xFC11, "ثج"), (0xFC12, "ثم"), (0xFC13, "ثى"),
   (0xFC14, "ثي"), (0xFC15, "جح"), (0xFC16, "جم"), (0xFC17, "حج"), (0xFC18, "حم"), (0xFC19, "خج"),
   (0xFC1A, "خح"), (0xFC1B, "خم"), (0xFC1C, "سج"), (0xFC1D, "سح"), (0xFC1E, "سخ"), (0xFC1F, "سم"),
   (0xFC20, "صح"), (0xFC21, "صم"), (0xFC22, "ضج"), (0xFC23, "ضح"), (0xFC24, "ضخ"), (0xFC25, "ضم"),
   (0xFC26, "طح"), (0xFC27, "طم"), (0xFC28, "ظم"), (0xFC29, "عج"), (0xFC2A, "عم"), (0xFC2B, "غج"),
   (0xFC2C, "غم"), (0xFC2D, "فج"), (0xFC2E, "فح"), (0xFC2F, "فخ"), (0xFC30, "فم"), (0xFC31, "فى"),
   (0xFC32, "في"), (0xFC33, "قح"), (0xFC34, "قم"), (0xFC35, "قى"), (0xFC36, "قي"), (0xFC37, "كا")]

/-- Replacements by several characters, or by none. -/
def phrasesFour : List (Nat × String) :=
  [(0xFC38, "كج"), (0xFC39, "كح"), (0xFC3A, "كخ"), (0xFC3B, "كل"), (0xFC3C, "كم"), (0xFC3D, "كى"),
   (0xFC3E, "كي"), (0xFC3F, "لج"), (0xFC40, "لح"), (0xFC41, "لخ"), (0xFC42, "لم"), (0xFC43, "لى"),
   (0xFC44, "لي"), (0xFC45, "مج"), (0xFC46, "مح"), (0xFC47, "مخ"), (0xFC48, "مم"), (0xFC49, "مى"),
   (0xFC4A, "مي"), (0xFC4B, "نج"), (0xFC4C, "نح"), (0xFC4D, "نخ"), (0xFC4E, "نم"), (0xFC4F, "نى"),
   (0xFC50, "ني"), (0xFC51, "هج"), (0xFC52, "هم"), (0xFC53, "هى"), (0xFC54, "هي"), (0xFC55, "يج"),
   (0xFC56, "يح"), (0xFC57, "يخ"), (0xFC58, "يم"), (0xFC59, "يى"), (0xFC5A, "يي"), (0xFC5B, "ذٰ"),
   (0xFC5C, "رٰ"), (0xFC5D, "ىٰ"), (0xFC5E, " ٌّ"), (0xFC5F, " ٍّ"), (0xFC60, " َّ"),
   (0xFC61, " ُّ"), (0xFC62, " ِّ"), (0xFC63, " ّٰ"), (0xFC64, "ئر"), (0xFC65, "ئز"),
   (0xFC66, "ئم"), (0xFC67, "ئن"), (0xFC68, "ئى"), (0xFC69, "ئي"), (0xFC6A, "بر"), (0xFC6B, "بز"),
   (0xFC6C, "بم"), (0xFC6D, "بن"), (0xFC6E, "بى"), (0xFC6F, "بي"), (0xFC70, "تر"), (0xFC71, "تز"),
   (0xFC72, "تم"), (0xFC73, "تن"), (0xFC74, "تى"), (0xFC75, "تي"), (0xFC76, "ثر"), (0xFC77, "ثز"),
   (0xFC78, "ثم"), (0xFC79, "ثن"), (0xFC7A, "ثى"), (0xFC7B, "ثي"), (0xFC7C, "فى"), (0xFC7D, "في"),
   (0xFC7E, "قى"), (0xFC7F, "قي"), (0xFC80, "كا"), (0xFC81, "كل"), (0xFC82, "كم"), (0xFC83, "كى"),
   (0xFC84, "كي"), (0xFC85, "لم"), (0xFC86, "لى"), (0xFC87, "لي"), (0xFC88, "ما"), (0xFC89, "مم"),
   (0xFC8A, "نر"), (0xFC8B, "نز"), (0xFC8C, "نم"), (0xFC8D, "نن"), (0xFC8E, "نى"), (0xFC8F, "ني"),
   (0xFC90, "ىٰ"), (0xFC91, "ير"), (0xFC92, "يز"), (0xFC93, "يم"), (0xFC94, "ين"), (0xFC95, "يى"),
   (0xFC96, "يي"), (0xFC97, "ئج"), (0xFC98, "ئح"), (0xFC99, "ئخ"), (0xFC9A, "ئم"), (0xFC9B, "ئه"),
   (0xFC9C, "بج"), (0xFC9D, "بح"), (0xFC9E, "بخ"), (0xFC9F, "بم"), (0xFCA0, "به"), (0xFCA1, "تج"),
   (0xFCA2, "تح"), (0xFCA3, "تخ"), (0xFCA4, "تم"), (0xFCA5, "ته"), (0xFCA6, "ثم"), (0xFCA7, "جح"),
   (0xFCA8, "جم"), (0xFCA9, "حج"), (0xFCAA, "حم"), (0xFCAB, "خج"), (0xFCAC, "خم"), (0xFCAD, "سج"),
   (0xFCAE, "سح"), (0xFCAF, "سخ"), (0xFCB0, "سم"), (0xFCB1, "صح"), (0xFCB2, "صخ"), (0xFCB3, "صم"),
   (0xFCB4, "ضج"), (0xFCB5, "ضح"), (0xFCB6, "ضخ"), (0xFCB7, "ضم"), (0xFCB8, "طح"), (0xFCB9, "ظم"),
   (0xFCBA, "عج"), (0xFCBB, "عم"), (0xFCBC, "غج"), (0xFCBD, "غم"), (0xFCBE, "فج"), (0xFCBF, "فح"),
   (0xFCC0, "فخ"), (0xFCC1, "فم"), (0xFCC2, "قح"), (0xFCC3, "قم"), (0xFCC4, "كج"), (0xFCC5, "كح"),
   (0xFCC6, "كخ"), (0xFCC7, "كل"), (0xFCC8, "كم"), (0xFCC9, "لج"), (0xFCCA, "لح"), (0xFCCB, "لخ"),
   (0xFCCC, "لم"), (0xFCCD, "له"), (0xFCCE, "مج"), (0xFCCF, "مح"), (0xFCD0, "مخ"), (0xFCD1, "مم"),
   (0xFCD2, "نج"), (0xFCD3, "نح"), (0xFCD4, "نخ"), (0xFCD5, "نم"), (0xFCD6, "نه"), (0xFCD7, "هج"),
   (0xFCD8, "هم"), (0xFCD9, "هٰ"), (0xFCDA, "يج"), (0xFCDB, "يح"), (0xFCDC, "يخ"), (0xFCDD, "يم"),
   (0xFCDE, "يه"), (0xFCDF, "ئم"), (0xFCE0, "ئه"), (0xFCE1, "بم"), (0xFCE2, "به"), (0xFCE3, "تم"),
   (0xFCE4, "ته"), (0xFCE5, "ثم"), (0xFCE6, "ثه"), (0xFCE7, "سم"), (0xFCE8, "سه"), (0xFCE9, "شم"),
   (0xFCEA, "شه"), (0xFCEB, "كل"), (0xFCEC, "كم"), (0xFCED, "لم"), (0xFCEE, "نم"), (0xFCEF, "نه"),
   (0xFCF0, "يم"), (0xFCF1, "يه"), (0xFCF2, "ـَّ"), (0xFCF3, "ـُّ"), (0xFCF4, "ـِّ"),
   (0xFCF5, "طى"), (0xFCF6, "طي"), (0xFCF7, "عى"), (0xFCF8, "عي"), (0xFCF9, "غى"), (0xFCFA, "غي"),
   (0xFCFB, "سى"), (0xFCFC, "سي"), (0xFCFD, "شى"), (0xFCFE, "شي"), (0xFCFF, "حى"), (0xFD00, "حي"),
   (0xFD01, "جى"), (0xFD02, "جي"), (0xFD03, "خى"), (0xFD04, "خي"), (0xFD05, "صى"), (0xFD06, "صي"),
   (0xFD07, "ضى"), (0xFD08, "ضي"), (0xFD09, "شج"), (0xFD0A, "شح"), (0xFD0B, "شخ"), (0xFD0C, "شم"),
   (0xFD0D, "شر"), (0xFD0E, "سر"), (0xFD0F, "صر"), (0xFD10, "ضر"), (0xFD11, "طى"), (0xFD12, "طي"),
   (0xFD13, "عى"), (0xFD14, "عي"), (0xFD15, "غى"), (0xFD16, "غي"), (0xFD17, "سى"), (0xFD18, "سي"),
   (0xFD19, "شى"), (0xFD1A, "شي"), (0xFD1B, "حى"), (0xFD1C, "حي"), (0xFD1D, "جى"), (0xFD1E, "جي"),
   (0xFD1F, "خى"), (0xFD20, "خي"), (0xFD21, "صى"), (0xFD22, "صي"), (0xFD23, "ضى"), (0xFD24, "ضي"),
   (0xFD25, "شج"), (0xFD26, "شح"), (0xFD27, "شخ"), (0xFD28, "شم"), (0xFD29, "شر"), (0xFD2A, "سر"),
   (0xFD2B, "صر"), (0xFD2C, "ضر"), (0xFD2D, "شج"), (0xFD2E, "شح"), (0xFD2F, "شخ"), (0xFD30, "شم"),
   (0xFD31, "سه"), (0xFD32, "شه"), (0xFD33, "طم"), (0xFD34, "سج"), (0xFD35, "سح"), (0xFD36, "سخ"),
   (0xFD37, "شج"), (0xFD38, "شح"), (0xFD39, "شخ"), (0xFD3A, "طم"), (0xFD3B, "ظم")]

/-- Replacements by several characters, or by none. -/
def phrasesFive : List (Nat × String) :=
  [(0xFD3C, "اً"), (0xFD3D, "اً"), (0xFD50, "تجم"), (0xFD51, "تحج"), (0xFD52, "تحج"),
   (0xFD53, "تحم"), (0xFD54, "تخم"), (0xFD55, "تمج"), (0xFD56, "تمح"), (0xFD57, "تمخ"),
   (0xFD58, "جمح"), (0xFD59, "جمح"), (0xFD5A, "حمي"), (0xFD5B, "حمى"), (0xFD5C, "سحج"),
   (0xFD5D, "سجح"), (0xFD5E, "سجى"), (0xFD5F, "سمح"), (0xFD60, "سمح"), (0xFD61, "سمج"),
   (0xFD62, "سمم"), (0xFD63, "سمم"), (0xFD64, "صحح"), (0xFD65, "صحح"), (0xFD66, "صمم"),
   (0xFD67, "شحم"), (0xFD68, "شحم"), (0xFD69, "شجي"), (0xFD6A, "شمخ"), (0xFD6B, "شمخ"),
   (0xFD6C, "شمم"), (0xFD6D, "شمم"), (0xFD6E, "ضحى"), (0xFD6F, "ضخم"), (0xFD70, "ضخم"),
   (0xFD71, "طمح"), (0xFD72, "طمح"), (0xFD73, "طمم"), (0xFD74, "طمي"), (0xFD75, "عجم"),
   (0xFD76, "عمم"), (0xFD77, "عمم"), (0xFD78, "عمى"), (0xFD79, "غمم"), (0xFD7A, "غمي"),
   (0xFD7B, "غمى"), (0xFD7C, "فخم"), (0xFD7D, "فخم"), (0xFD7E, "قمح"), (0xFD7F, "قمم"),
   (0xFD80, "لحم"), (0xFD81, "لحي"), (0xFD82, "لحى"), (0xFD83, "لجج"), (0xFD84, "لجج"),
   (0xFD85, "لخم"), (0xFD86, "لخم"), (0xFD87, "لمح"), (0xFD88, "لمح"), (0xFD89, "محج"),
   (0xFD8A, "محم"), (0xFD8B, "محي"), (0xFD8C, "مجح"), (0xFD8D, "مجم"), (0xFD8E, "مخج"),
   (0xFD8F, "مخم"), (0xFD92, "مجخ"), (0xFD93, "همج"), (0xFD94, "همم"), (0xFD95, "نحم"),
   (0xFD96, "نحى"), (0xFD97, "نجم"), (0xFD98, "نجم"), (0xFD99, "نجى"), (0xFD9A, "نمي"),
   (0xFD9B, "نمى"), (0xFD9C, "يمم"), (0xFD9D, "يمم"), (0xFD9E, "بخي"), (0xFD9F, "تجي"),
   (0xFDA0, "تجى"), (0xFDA1, "تخي"), (0xFDA2, "تخى"), (0xFDA3, "تمي"), (0xFDA4, "تمى"),
   (0xFDA5, "جمي"), (0xFDA6, "جحى"), (0xFDA7, "جمى"), (0xFDA8, "سخى"), (0xFDA9, "صحي"),
   (0xFDAA, "شحي"), (0xFDAB, "ضحي"), (0xFDAC, "لجي"), (0xFDAD, "لمي"), (0xFDAE, "يحي"),
   (0xFDAF, "يجي"), (0xFDB0, "يمي"), (0xFDB1, "ممي"), (0xFDB2, "قمي"), (0xFDB3, "نحي"),
   (0xFDB4, "قمح"), (0xFDB5, "لحم"), (0xFDB6, "عمي"), (0xFDB7, "كمي"), (0xFDB8, "نجح"),
   (0xFDB9, "مخي"), (0xFDBA, "لجم"), (0xFDBB, "كمم"), (0xFDBC, "لجم"), (0xFDBD, "نجح"),
   (0xFDBE, "جحي"), (0xFDBF, "حجي"), (0xFDC0, "مجي"), (0xFDC1, "فمي"), (0xFDC2, "بحي"),
   (0xFDC3, "كمم"), (0xFDC4, "عجم"), (0xFDC5, "صمم"), (0xFDC6, "سخي"), (0xFDC7, "نجي"),
   (0xFDF0, "صلے"), (0xFDF1, "قلے"), (0xFDF2, "الله"), (0xFDF3, "اكبر"), (0xFDF4, "محمد"),
   (0xFDF5, "صلعم"), (0xFDF6, "رسول"), (0xFDF7, "عليه"), (0xFDF8, "وسلم"), (0xFDF9, "صلى"),
   (0xFDFA, "صلى الله عليه وسلم"), (0xFDFB, "جل جلاله"), (0xFDFC, "ریال"), (0xFE49, " ̅"),
   (0xFE4A, " ̅"), (0xFE4B, " ̅"), (0xFE4C, " ̅"), (0xFE70, " ً"), (0xFE71, "ـً"), (0xFE72, " ٌ"),
   (0xFE74, " ٍ"), (0xFE76, " َ"), (0xFE77, "ـَ"), (0xFE78, " ُ"), (0xFE79, "ـُ"), (0xFE7A, " ِ"),
   (0xFE7B, "ـِ"), (0xFE7C, " ّ"), (0xFE7D, "ـّ"), (0xFE7E, " ْ"), (0xFE7F, "ـْ"), (0xFEF5, "لآ"),
   (0xFEF6, "لآ"), (0xFEF7, "لأ"), (0xFEF8, "لأ"), (0xFEF9, "لإ"), (0xFEFA, "لإ"), (0xFEFB, "لا"),
   (0xFEFC, "لا"), (0xFFE3, " ̄"), (0x1D15E, "𝅗𝅥"), (0x1D15F, "𝅘𝅥"), (0x1D160, "𝅘𝅥𝅮"),
   (0x1D161, "𝅘𝅥𝅯"), (0x1D162, "𝅘𝅥𝅰"), (0x1D163, "𝅘𝅥𝅱"), (0x1D164, "𝅘𝅥𝅲"), (0x1D1BB, "𝆹𝅥"),
   (0x1D1BC, "𝆺𝅥"), (0x1D1BD, "𝆹𝅥𝅮"), (0x1D1BE, "𝆺𝅥𝅮"), (0x1D1BF, "𝆹𝅥𝅯"), (0x1D1C0, "𝆺𝅥𝅯"),
   (0x1F101, "0,"), (0x1F102, "1,"), (0x1F103, "2,"), (0x1F104, "3,"), (0x1F105, "4,"),
   (0x1F106, "5,"), (0x1F107, "6,"), (0x1F108, "7,"), (0x1F109, "8,"), (0x1F10A, "9,"),
   (0x1F110, "(a)"), (0x1F111, "(b)"), (0x1F112, "(c)"), (0x1F113, "(d)"), (0x1F114, "(e)"),
   (0x1F115, "(f)"), (0x1F116, "(g)"), (0x1F117, "(h)"), (0x1F118, "(i)"), (0x1F119, "(j)"),
   (0x1F11A, "(k)"), (0x1F11B, "(l)"), (0x1F11C, "(m)"), (0x1F11D, "(n)"), (0x1F11E, "(o)"),
   (0x1F11F, "(p)"), (0x1F120, "(q)"), (0x1F121, "(r)"), (0x1F122, "(s)"), (0x1F123, "(t)"),
   (0x1F124, "(u)"), (0x1F125, "(v)"), (0x1F126, "(w)"), (0x1F127, "(x)"), (0x1F128, "(y)"),
   (0x1F129, "(z)"), (0x1F12A, "〔s〕"), (0x1F12D, "cd"), (0x1F12E, "wz"), (0x1F14A, "hv"),
   (0x1F14B, "mv"), (0x1F14C, "sd"), (0x1F14D, "ss"), (0x1F14E, "ppv"), (0x1F14F, "wc"),
   (0x1F16A, "mc"), (0x1F16B, "md"), (0x1F16C, "mr"), (0x1F190, "dj"), (0x1F200, "ほか"),
   (0x1F201, "ココ"), (0x1F240, "〔本〕"), (0x1F241, "〔三〕"), (0x1F242, "〔二〕"), (0x1F243, "〔安〕"),
   (0x1F244, "〔点〕"), (0x1F245, "〔打〕"), (0x1F246, "〔盗〕"), (0x1F247, "〔勝〕"), (0x1F248, "〔敗〕")]

/-- All replacements by several characters, or by none. -/
def phrases : List (Nat × String) :=
  phrasesOne ++ phrasesTwo ++ phrasesThree ++ phrasesFour ++ phrasesFive

/-- Code points that are dropped from a name. -/
def ignored : CodePointSet := .ofEdges
  [0xAD, 0xAE, 0x34F, 0x350, 0x115F, 0x1161, 0x17B4, 0x17B6, 0x180B, 0x1810, 0x200B, 0x200C,
   0x2060, 0x2065, 0x206A, 0x2070, 0x3164, 0x3165, 0xFE00, 0xFE10, 0xFEFF, 0xFF00, 0xFFA0, 0xFFA1,
   0x1BCA0, 0x1BCA4, 0x1D173, 0x1D17B, 0xE0100, 0xE01F0]

/-- Code points that no name may hold. -/
def disallowed : CodePointSet := .ofEdges
  [0x80, 0xA0, 0x378, 0x37A, 0x380, 0x384, 0x38B, 0x38C, 0x38D, 0x38E, 0x3A2, 0x3A3, 0x530, 0x531,
   0x557, 0x559, 0x58B, 0x58D, 0x590, 0x591, 0x5C8, 0x5D0, 0x5EB, 0x5EF, 0x5F5, 0x606, 0x61C,
   0x61D, 0x6DD, 0x6DE, 0x70E, 0x710, 0x74B, 0x74D, 0x7B2, 0x7C0, 0x7FB, 0x7FD, 0x82E, 0x830,
   0x83F, 0x840, 0x85C, 0x85E, 0x85F, 0x860, 0x86B, 0x870, 0x890, 0x897, 0x8E2, 0x8E3, 0x984,
   0x985, 0x98D, 0x98F, 0x991, 0x993, 0x9A9, 0x9AA, 0x9B1, 0x9B2, 0x9B3, 0x9B6, 0x9BA, 0x9BC,
   0x9C5, 0x9C7, 0x9C9, 0x9CB, 0x9CF, 0x9D7, 0x9D8, 0x9DC, 0x9DE, 0x9DF, 0x9E4, 0x9E6, 0x9FF,
   0xA01, 0xA04, 0xA05, 0xA0B, 0xA0F, 0xA11, 0xA13, 0xA29, 0xA2A, 0xA31, 0xA32, 0xA34, 0xA35,
   0xA37, 0xA38, 0xA3A, 0xA3C, 0xA3D, 0xA3E, 0xA43, 0xA47, 0xA49, 0xA4B, 0xA4E, 0xA51, 0xA52,
   0xA59, 0xA5D, 0xA5E, 0xA5F, 0xA66, 0xA77, 0xA81, 0xA84, 0xA85, 0xA8E, 0xA8F, 0xA92, 0xA93,
   0xAA9, 0xAAA, 0xAB1, 0xAB2, 0xAB4, 0xAB5, 0xABA, 0xABC, 0xAC6, 0xAC7, 0xACA, 0xACB, 0xACE,
   0xAD0, 0xAD1, 0xAE0, 0xAE4, 0xAE6, 0xAF2, 0xAF9, 0xB00, 0xB01, 0xB04, 0xB05, 0xB0D, 0xB0F,
   0xB11, 0xB13, 0xB29, 0xB2A, 0xB31, 0xB32, 0xB34, 0xB35, 0xB3A, 0xB3C, 0xB45, 0xB47, 0xB49,
   0xB4B, 0xB4E, 0xB55, 0xB58, 0xB5C, 0xB5E, 0xB5F, 0xB64, 0xB66, 0xB78, 0xB82, 0xB84, 0xB85,
   0xB8B, 0xB8E, 0xB91, 0xB92, 0xB96, 0xB99, 0xB9B, 0xB9C, 0xB9D, 0xB9E, 0xBA0, 0xBA3, 0xBA5,
   0xBA8, 0xBAB, 0xBAE, 0xBBA, 0xBBE, 0xBC3, 0xBC6, 0xBC9, 0xBCA, 0xBCE, 0xBD0, 0xBD1, 0xBD7,
   0xBD8, 0xBE6, 0xBFB, 0xC00, 0xC0D, 0xC0E, 0xC11, 0xC12, 0xC29, 0xC2A, 0xC3A, 0xC3C, 0xC45,
   0xC46, 0xC49, 0xC4A, 0xC4E, 0xC55, 0xC57, 0xC58, 0xC5B, 0xC5C, 0xC5E, 0xC60, 0xC64, 0xC66,
   0xC70, 0xC77, 0xC8D, 0xC8E, 0xC91, 0xC92, 0xCA9, 0xCAA, 0xCB4, 0xCB5, 0xCBA, 0xCBC, 0xCC5,
   0xCC6, 0xCC9, 0xCCA, 0xCCE, 0xCD5, 0xCD7, 0xCDC, 0xCDF, 0xCE0, 0xCE4, 0xCE6, 0xCF0, 0xCF1,
   0xCF4, 0xD00, 0xD0D, 0xD0E, 0xD11, 0xD12, 0xD45, 0xD46, 0xD49, 0xD4A, 0xD50, 0xD54, 0xD64,
   0xD66, 0xD80, 0xD81, 0xD84, 0xD85, 0xD97, 0xD9A, 0xDB2, 0xDB3, 0xDBC, 0xDBD, 0xDBE, 0xDC0,
   0xDC7, 0xDCA, 0xDCB, 0xDCF, 0xDD5, 0xDD6, 0xDD7, 0xDD8, 0xDE0, 0xDE6, 0xDF0, 0xDF2, 0xDF5,
   0xE01, 0xE3B, 0xE3F, 0xE5C, 0xE81, 0xE83, 0xE84, 0xE85, 0xE86, 0xE8B, 0xE8C, 0xEA4, 0xEA5,
   0xEA6, 0xEA7, 0xEBE, 0xEC0, 0xEC5, 0xEC6, 0xEC7, 0xEC8, 0xECF, 0xED0, 0xEDA, 0xEDC, 0xEE0,
   0xF00, 0xF48, 0xF49, 0xF6D, 0xF71, 0xF98, 0xF99, 0xFBD, 0xFBE, 0xFCD, 0xFCE, 0xFDB, 0x1000,
   0x10C6, 0x10C7, 0x10C8, 0x10CD, 0x10CE, 0x10D0, 0x1249, 0x124A, 0x124E, 0x1250, 0x1257, 0x1258,
   0x1259, 0x125A, 0x125E, 0x1260, 0x1289, 0x128A, 0x128E, 0x1290, 0x12B1, 0x12B2, 0x12B6, 0x12B8,
   0x12BF, 0x12C0, 0x12C1, 0x12C2, 0x12C6, 0x12C8, 0x12D7, 0x12D8, 0x1311, 0x1312, 0x1316, 0x1318,
   0x135B, 0x135D, 0x137D, 0x1380, 0x139A, 0x13A0, 0x13F6, 0x13F8, 0x13FE, 0x1400, 0x1680, 0x1681,
   0x169D, 0x16A0, 0x16F9, 0x1700, 0x1716, 0x171F, 0x1737, 0x1740, 0x1754, 0x1760, 0x176D, 0x176E,
   0x1771, 0x1772, 0x1774, 0x1780, 0x17DE, 0x17E0, 0x17EA, 0x17F0, 0x17FA, 0x1800, 0x181A, 0x1820,
   0x1879, 0x1880, 0x18AB, 0x18B0, 0x18F6, 0x1900, 0x191F, 0x1920, 0x192C, 0x1930, 0x193C, 0x1940,
   0x1941, 0x1944, 0x196E, 0x1970, 0x1975, 0x1980, 0x19AC, 0x19B0, 0x19CA, 0x19D0, 0x19DB, 0x19DE,
   0x1A1C, 0x1A1E, 0x1A5F, 0x1A60, 0x1A7D, 0x1A7F, 0x1A8A, 0x1A90, 0x1A9A, 0x1AA0, 0x1AAE, 0x1AB0,
   0x1ADE, 0x1AE0, 0x1AEC, 0x1B00, 0x1B4D, 0x1B4E, 0x1BF4, 0x1BFC, 0x1C38, 0x1C3B, 0x1C4A, 0x1C4D,
   0x1C8B, 0x1C90, 0x1CBB, 0x1CBD, 0x1CC8, 0x1CD0, 0x1CFB, 0x1D00, 0x1F16, 0x1F18, 0x1F1E, 0x1F20,
   0x1F46, 0x1F48, 0x1F4E, 0x1F50, 0x1F58, 0x1F59, 0x1F5A, 0x1F5B, 0x1F5C, 0x1F5D, 0x1F5E, 0x1F5F,
   0x1F7E, 0x1F80, 0x1FB5, 0x1FB6, 0x1FC5, 0x1FC6, 0x1FD4, 0x1FD6, 0x1FDC, 0x1FDD, 0x1FF0, 0x1FF2,
   0x1FF5, 0x1FF6, 0x1FFF, 0x2000, 0x200E, 0x2010, 0x2024, 0x2027, 0x2028, 0x202F, 0x2065, 0x206A,
   0x2072, 0x2074, 0x208F, 0x2090, 0x209D, 0x20A0, 0x20C2, 0x20D0, 0x20F1, 0x2100, 0x218C, 0x2190,
   0x242A, 0x2440, 0x244B, 0x2460, 0x2488, 0x249C, 0x2B74, 0x2B76, 0x2CF4, 0x2CF9, 0x2D26, 0x2D27,
   0x2D28, 0x2D2D, 0x2D2E, 0x2D30, 0x2D68, 0x2D6F, 0x2D71, 0x2D7F, 0x2D97, 0x2DA0, 0x2DA7, 0x2DA8,
   0x2DAF, 0x2DB0, 0x2DB7, 0x2DB8, 0x2DBF, 0x2DC0, 0x2DC7, 0x2DC8, 0x2DCF, 0x2DD0, 0x2DD7, 0x2DD8,
   0x2DDF, 0x2DE0, 0x2E5E, 0x2E80, 0x2E9A, 0x2E9B, 0x2EF4, 0x2F00, 0x2FD6, 0x3000, 0x3040, 0x3041,
   0x3097, 0x3099, 0x3100, 0x3105, 0x3130, 0x3131, 0x318F, 0x3190, 0x31E6, 0x31F0, 0x321F, 0x3220,
   0x33C2, 0x33C3, 0x33C7, 0x33C8, 0x33D8, 0x33D9, 0xA48D, 0xA490, 0xA4C7, 0xA4D0, 0xA62C, 0xA640,
   0xA6F8, 0xA700, 0xA7DD, 0xA7F1, 0xA82D, 0xA830, 0xA83A, 0xA840, 0xA878, 0xA880, 0xA8C6, 0xA8CE,
   0xA8DA, 0xA8E0, 0xA954, 0xA95F, 0xA97D, 0xA980, 0xA9CE, 0xA9CF, 0xA9DA, 0xA9DE, 0xA9FF, 0xAA00,
   0xAA37, 0xAA40, 0xAA4E, 0xAA50, 0xAA5A, 0xAA5C, 0xAAC3, 0xAADB, 0xAAF7, 0xAB01, 0xAB07, 0xAB09,
   0xAB0F, 0xAB11, 0xAB17, 0xAB20, 0xAB27, 0xAB28, 0xAB2F, 0xAB30, 0xAB6C, 0xAB70, 0xABEE, 0xABF0,
   0xABFA, 0xAC00, 0xD7A4, 0xD7B0, 0xD7C7, 0xD7CB, 0xD7FC, 0xF900, 0xFA6E, 0xFA70, 0xFADA, 0xFB00,
   0xFB07, 0xFB13, 0xFB18, 0xFB1D, 0xFB37, 0xFB38, 0xFB3D, 0xFB3E, 0xFB3F, 0xFB40, 0xFB42, 0xFB43,
   0xFB45, 0xFB46, 0xFDD0, 0xFDF0, 0xFE12, 0xFE13, 0xFE19, 0xFE20, 0xFE30, 0xFE31, 0xFE52, 0xFE54,
   0xFE67, 0xFE68, 0xFE6C, 0xFE70, 0xFE75, 0xFE76, 0xFEFD, 0xFEFF, 0xFF00, 0xFF01, 0xFFBF, 0xFFC2,
   0xFFC8, 0xFFCA, 0xFFD0, 0xFFD2, 0xFFD8, 0xFFDA, 0xFFDD, 0xFFE0, 0xFFE7, 0xFFE8, 0xFFEF,
   0x10000, 0x1000C, 0x1000D, 0x10027, 0x10028, 0x1003B, 0x1003C, 0x1003E, 0x1003F, 0x1004E,
   0x10050, 0x1005E, 0x10080, 0x100FB, 0x10100, 0x10103, 0x10107, 0x10134, 0x10137, 0x1018F,
   0x10190, 0x1019D, 0x101A0, 0x101A1, 0x101D0, 0x101FE, 0x10280, 0x1029D, 0x102A0, 0x102D1,
   0x102E0, 0x102FC, 0x10300, 0x10324, 0x1032D, 0x1034B, 0x10350, 0x1037B, 0x10380, 0x1039E,
   0x1039F, 0x103C4, 0x103C8, 0x103D6, 0x10400, 0x1049E, 0x104A0, 0x104AA, 0x104B0, 0x104D4,
   0x104D8, 0x104FC, 0x10500, 0x10528, 0x10530, 0x10564, 0x1056F, 0x1057B, 0x1057C, 0x1058B,
   0x1058C, 0x10593, 0x10594, 0x10596, 0x10597, 0x105A2, 0x105A3, 0x105B2, 0x105B3, 0x105BA,
   0x105BB, 0x105BD, 0x105C0, 0x105F4, 0x10600, 0x10737, 0x10740, 0x10756, 0x10760, 0x10768,
   0x10780, 0x10786, 0x10787, 0x107B1, 0x107B2, 0x107BB, 0x10800, 0x10806, 0x10808, 0x10809,
   0x1080A, 0x10836, 0x10837, 0x10839, 0x1083C, 0x1083D, 0x1083F, 0x10856, 0x10857, 0x1089F,
   0x108A7, 0x108B0, 0x108E0, 0x108F3, 0x108F4, 0x108F6, 0x108FB, 0x1091C, 0x1091F, 0x1093A,
   0x1093F, 0x1095A, 0x10980, 0x109B8, 0x109BC, 0x109D0, 0x109D2, 0x10A04, 0x10A05, 0x10A07,
   0x10A0C, 0x10A14, 0x10A15, 0x10A18, 0x10A19, 0x10A36, 0x10A38, 0x10A3B, 0x10A3F, 0x10A49,
   0x10A50, 0x10A59, 0x10A60, 0x10AA0, 0x10AC0, 0x10AE7, 0x10AEB, 0x10AF7, 0x10B00, 0x10B36,
   0x10B39, 0x10B56, 0x10B58, 0x10B73, 0x10B78, 0x10B92, 0x10B99, 0x10B9D, 0x10BA9, 0x10BB0,
   0x10C00, 0x10C49, 0x10C80, 0x10CB3, 0x10CC0, 0x10CF3, 0x10CFA, 0x10D28, 0x10D30, 0x10D3A,
   0x10D40, 0x10D66, 0x10D69, 0x10D86, 0x10D8E, 0x10D90, 0x10E60, 0x10E7F, 0x10E80, 0x10EAA,
   0x10EAB, 0x10EAE, 0x10EB0, 0x10EB2, 0x10EC2, 0x10EC8, 0x10ED0, 0x10ED9, 0x10EFA, 0x10F28,
   0x10F30, 0x10F5A, 0x10F70, 0x10F8A, 0x10FB0, 0x10FCC, 0x10FE0, 0x10FF7, 0x11000, 0x1104E,
   0x11052, 0x11076, 0x1107F, 0x110BD, 0x110BE, 0x110C3, 0x110D0, 0x110E9, 0x110F0, 0x110FA,
   0x11100, 0x11135, 0x11136, 0x11148, 0x11150, 0x11177, 0x11180, 0x111E0, 0x111E1, 0x111F5,
   0x11200, 0x11212, 0x11213, 0x11242, 0x11280, 0x11287, 0x11288, 0x11289, 0x1128A, 0x1128E,
   0x1128F, 0x1129E, 0x1129F, 0x112AA, 0x112B0, 0x112EB, 0x112F0, 0x112FA, 0x11300, 0x11304,
   0x11305, 0x1130D, 0x1130F, 0x11311, 0x11313, 0x11329, 0x1132A, 0x11331, 0x11332, 0x11334,
   0x11335, 0x1133A, 0x1133B, 0x11345, 0x11347, 0x11349, 0x1134B, 0x1134E, 0x11350, 0x11351,
   0x11357, 0x11358, 0x1135D, 0x11364, 0x11366, 0x1136D, 0x11370, 0x11375, 0x11380, 0x1138A,
   0x1138B, 0x1138C, 0x1138E, 0x1138F, 0x11390, 0x113B6, 0x113B7, 0x113C1, 0x113C2, 0x113C3,
   0x113C5, 0x113C6, 0x113C7, 0x113CB, 0x113CC, 0x113D6, 0x113D7, 0x113D9, 0x113E1, 0x113E3,
   0x11400, 0x1145C, 0x1145D, 0x11462, 0x11480, 0x114C8, 0x114D0, 0x114DA, 0x11580, 0x115B6,
   0x115B8, 0x115DE, 0x11600, 0x11645, 0x11650, 0x1165A, 0x11660, 0x1166D, 0x11680, 0x116BA,
   0x116C0, 0x116CA, 0x116D0, 0x116E4, 0x11700, 0x1171B, 0x1171D, 0x1172C, 0x11730, 0x11747,
   0x11800, 0x1183C, 0x118A0, 0x118F3, 0x118FF, 0x11907, 0x11909, 0x1190A, 0x1190C, 0x11914,
   0x11915, 0x11917, 0x11918, 0x11936, 0x11937, 0x11939, 0x1193B, 0x11947, 0x11950, 0x1195A,
   0x119A0, 0x119A8, 0x119AA, 0x119D8, 0x119DA, 0x119E5, 0x11A00, 0x11A48, 0x11A50, 0x11AA3,
   0x11AB0, 0x11AF9, 0x11B00, 0x11B0A, 0x11B60, 0x11B68, 0x11BC0, 0x11BE2, 0x11BF0, 0x11BFA,
   0x11C00, 0x11C09, 0x11C0A, 0x11C37, 0x11C38, 0x11C46, 0x11C50, 0x11C6D, 0x11C70, 0x11C90,
   0x11C92, 0x11CA8, 0x11CA9, 0x11CB7, 0x11D00, 0x11D07, 0x11D08, 0x11D0A, 0x11D0B, 0x11D37,
   0x11D3A, 0x11D3B, 0x11D3C, 0x11D3E, 0x11D3F, 0x11D48, 0x11D50, 0x11D5A, 0x11D60, 0x11D66,
   0x11D67, 0x11D69, 0x11D6A, 0x11D8F, 0x11D90, 0x11D92, 0x11D93, 0x11D99, 0x11DA0, 0x11DAA,
   0x11DB0, 0x11DDC, 0x11DE0, 0x11DEA, 0x11EE0, 0x11EF9, 0x11F00, 0x11F11, 0x11F12, 0x11F3B,
   0x11F3E, 0x11F5B, 0x11FB0, 0x11FB1, 0x11FC0, 0x11FF2, 0x11FFF, 0x1239A, 0x12400, 0x1246F,
   0x12470, 0x12475, 0x12480, 0x12544, 0x12F90, 0x12FF3, 0x13000, 0x13430, 0x13440, 0x13456,
   0x13460, 0x143FB, 0x14400, 0x14647, 0x16100, 0x1613A, 0x16800, 0x16A39, 0x16A40, 0x16A5F,
   0x16A60, 0x16A6A, 0x16A6E, 0x16ABF, 0x16AC0, 0x16ACA, 0x16AD0, 0x16AEE, 0x16AF0, 0x16AF6,
   0x16B00, 0x16B46, 0x16B50, 0x16B5A, 0x16B5B, 0x16B62, 0x16B63, 0x16B78, 0x16B7D, 0x16B90,
   0x16D40, 0x16D7A, 0x16E40, 0x16E9B, 0x16EA0, 0x16EB9, 0x16EBB, 0x16ED4, 0x16F00, 0x16F4B,
   0x16F4F, 0x16F88, 0x16F8F, 0x16FA0, 0x16FE0, 0x16FE5, 0x16FF0, 0x16FF7, 0x17000, 0x18CD6,
   0x18CFF, 0x18D1F, 0x18D80, 0x18DF3, 0x1AFF0, 0x1AFF4, 0x1AFF5, 0x1AFFC, 0x1AFFD, 0x1AFFF,
   0x1B000, 0x1B123, 0x1B132, 0x1B133, 0x1B150, 0x1B153, 0x1B155, 0x1B156, 0x1B164, 0x1B168,
   0x1B170, 0x1B2FC, 0x1BC00, 0x1BC6B, 0x1BC70, 0x1BC7D, 0x1BC80, 0x1BC89, 0x1BC90, 0x1BC9A,
   0x1BC9C, 0x1BCA4, 0x1CC00, 0x1CCFD, 0x1CD00, 0x1CEB4, 0x1CEBA, 0x1CED1, 0x1CEE0, 0x1CEF1,
   0x1CF00, 0x1CF2E, 0x1CF30, 0x1CF47, 0x1CF50, 0x1CFC4, 0x1D000, 0x1D0F6, 0x1D100, 0x1D127,
   0x1D129, 0x1D1EB, 0x1D200, 0x1D246, 0x1D2C0, 0x1D2D4, 0x1D2E0, 0x1D2F4, 0x1D300, 0x1D357,
   0x1D360, 0x1D379, 0x1D400, 0x1D455, 0x1D456, 0x1D49D, 0x1D49E, 0x1D4A0, 0x1D4A2, 0x1D4A3,
   0x1D4A5, 0x1D4A7, 0x1D4A9, 0x1D4AD, 0x1D4AE, 0x1D4BA, 0x1D4BB, 0x1D4BC, 0x1D4BD, 0x1D4C4,
   0x1D4C5, 0x1D506, 0x1D507, 0x1D50B, 0x1D50D, 0x1D515, 0x1D516, 0x1D51D, 0x1D51E, 0x1D53A,
   0x1D53B, 0x1D53F, 0x1D540, 0x1D545, 0x1D546, 0x1D547, 0x1D54A, 0x1D551, 0x1D552, 0x1D6A6,
   0x1D6A8, 0x1D7CC, 0x1D7CE, 0x1DA8C, 0x1DA9B, 0x1DAA0, 0x1DAA1, 0x1DAB0, 0x1DF00, 0x1DF1F,
   0x1DF25, 0x1DF2B, 0x1E000, 0x1E007, 0x1E008, 0x1E019, 0x1E01B, 0x1E022, 0x1E023, 0x1E025,
   0x1E026, 0x1E02B, 0x1E030, 0x1E06E, 0x1E08F, 0x1E090, 0x1E100, 0x1E12D, 0x1E130, 0x1E13E,
   0x1E140, 0x1E14A, 0x1E14E, 0x1E150, 0x1E290, 0x1E2AF, 0x1E2C0, 0x1E2FA, 0x1E2FF, 0x1E300,
   0x1E4D0, 0x1E4FA, 0x1E5D0, 0x1E5FB, 0x1E5FF, 0x1E600, 0x1E6C0, 0x1E6DF, 0x1E6E0, 0x1E6F6,
   0x1E6FE, 0x1E700, 0x1E7E0, 0x1E7E7, 0x1E7E8, 0x1E7EC, 0x1E7ED, 0x1E7EF, 0x1E7F0, 0x1E7FF,
   0x1E800, 0x1E8C5, 0x1E8C7, 0x1E8D7, 0x1E900, 0x1E94C, 0x1E950, 0x1E95A, 0x1E95E, 0x1E960,
   0x1EC71, 0x1ECB5, 0x1ED01, 0x1ED3E, 0x1EE00, 0x1EE04, 0x1EE05, 0x1EE20, 0x1EE21, 0x1EE23,
   0x1EE24, 0x1EE25, 0x1EE27, 0x1EE28, 0x1EE29, 0x1EE33, 0x1EE34, 0x1EE38, 0x1EE39, 0x1EE3A,
   0x1EE3B, 0x1EE3C, 0x1EE42, 0x1EE43, 0x1EE47, 0x1EE48, 0x1EE49, 0x1EE4A, 0x1EE4B, 0x1EE4C,
   0x1EE4D, 0x1EE50, 0x1EE51, 0x1EE53, 0x1EE54, 0x1EE55, 0x1EE57, 0x1EE58, 0x1EE59, 0x1EE5A,
   0x1EE5B, 0x1EE5C, 0x1EE5D, 0x1EE5E, 0x1EE5F, 0x1EE60, 0x1EE61, 0x1EE63, 0x1EE64, 0x1EE65,
   0x1EE67, 0x1EE6B, 0x1EE6C, 0x1EE73, 0x1EE74, 0x1EE78, 0x1EE79, 0x1EE7D, 0x1EE7E, 0x1EE7F,
   0x1EE80, 0x1EE8A, 0x1EE8B, 0x1EE9C, 0x1EEA1, 0x1EEA4, 0x1EEA5, 0x1EEAA, 0x1EEAB, 0x1EEBC,
   0x1EEF0, 0x1EEF2, 0x1F000, 0x1F02C, 0x1F030, 0x1F094, 0x1F0A0, 0x1F0AF, 0x1F0B1, 0x1F0C0,
   0x1F0C1, 0x1F0D0, 0x1F0D1, 0x1F0F6, 0x1F101, 0x1F1AE, 0x1F1E6, 0x1F203, 0x1F210, 0x1F23C,
   0x1F240, 0x1F249, 0x1F250, 0x1F252, 0x1F260, 0x1F266, 0x1F300, 0x1F6D9, 0x1F6DC, 0x1F6ED,
   0x1F6F0, 0x1F6FD, 0x1F700, 0x1F7DA, 0x1F7E0, 0x1F7EC, 0x1F7F0, 0x1F7F1, 0x1F800, 0x1F80C,
   0x1F810, 0x1F848, 0x1F850, 0x1F85A, 0x1F860, 0x1F888, 0x1F890, 0x1F8AE, 0x1F8B0, 0x1F8BC,
   0x1F8C0, 0x1F8C2, 0x1F8D0, 0x1F8D9, 0x1F900, 0x1FA58, 0x1FA60, 0x1FA6E, 0x1FA70, 0x1FA7D,
   0x1FA80, 0x1FA8B, 0x1FA8E, 0x1FAC7, 0x1FAC8, 0x1FAC9, 0x1FACD, 0x1FADD, 0x1FADF, 0x1FAEB,
   0x1FAEF, 0x1FAF9, 0x1FB00, 0x1FB93, 0x1FB94, 0x1FBFB, 0x20000, 0x2A6E0, 0x2A700, 0x2B81E,
   0x2B820, 0x2CEAE, 0x2CEB0, 0x2EBE1, 0x2EBF0, 0x2EE5E, 0x2F800, 0x2FA1E, 0x30000, 0x3134B,
   0x31350, 0x3347A, 0xE0100, 0xE01F0]

end HealthPanel.Url.Domain
