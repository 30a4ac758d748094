import Dialogue.DomainName.Disallowed

/-! # The mapping of characters

Before a name is compared, each of its characters is replaced by what it stands for: a capital
letter by the small one, a compatibility character by the plain one. Some are dropped. The tables
are those for processing internationalised domain names, version 17, in the manner that keeps the
sharp s, the final sigma and the joiners. -/

namespace Dialogue.DomainName

/-- The code points that are dropped. -/
def ignoredRanges : Array (Nat × Nat) := #[
  (0xAD, 0xAD), (0x34F, 0x34F), (0x115F, 0x1160), (0x17B4, 0x17B5), (0x180B, 0x180F),
  (0x200B, 0x200B), (0x2060, 0x2064), (0x206A, 0x206F), (0x3164, 0x3164), (0xFE00, 0xFE0F),
  (0xFEFF, 0xFEFF), (0xFFA0, 0xFFA0), (0x1BCA0, 0x1BCA3), (0x1D173, 0x1D17A), (0xE0100, 0xE01EF)]

/-- The alphabets beyond the first plane whose small letters stand at a fixed distance: the first
and the last capital letter, and the distance. -/
def distantRanges : Array (Nat × Nat × Nat) := #[
  (0x10400, 0x10427, 40), (0x104B0, 0x104D3, 40), (0x10570, 0x1057A, 39), (0x1057C, 0x1058A, 39),
  (0x1058C, 0x10592, 39), (0x10594, 0x10595, 39), (0x10C80, 0x10CB2, 64), (0x10D50, 0x10D65, 32),
  (0x118A0, 0x118BF, 32), (0x16E40, 0x16E5F, 32), (0x16EA0, 0x16EB8, 27), (0x1E900, 0x1E921, 34)]

/-- The characters that one other character replaces: the first and the last of some that stand at
equal distances, the distance, and their images. -/
def letterRows : Array (Nat × Nat × Nat × String) := #[
  (0x41, 0x5A, 1, "abcdefghijklmnopqrstuvwxyz"), (0xA0, 0xA0, 1, " "), (0xAA, 0xAA, 1, "a"),
  (0xB2, 0xB3, 1, "23"), (0xB5, 0xB5, 1, "μ"), (0xB9, 0xBA, 1, "1o"),
  (0xC0, 0xD6, 1, "àáâãäåæçèéêëìíîïðñòóôõö"), (0xD8, 0xDE, 1, "øùúûüýþ"),
  (0x100, 0x12E, 2, "āăąćĉċčďđēĕėęěĝğġģĥħĩīĭį"), (0x134, 0x136, 2, "ĵķ"), (0x139, 0x13D, 2, "ĺļľ"),
  (0x141, 0x147, 2, "łńņň"), (0x14A, 0x178, 2, "ŋōŏőœŕŗřśŝşšţťŧũūŭůűųŵŷÿ"),
  (0x179, 0x181, 2, "źżžsɓ"), (0x182, 0x186, 2, "ƃƅɔ"), (0x187, 0x18B, 2, "ƈɖƌ"),
  (0x18A, 0x18A, 1, "ɗ"), (0x18E, 0x191, 1, "ǝəɛƒ"), (0x193, 0x194, 1, "ɠɣ"),
  (0x196, 0x198, 1, "ɩɨƙ"), (0x19C, 0x19D, 1, "ɯɲ"), (0x19F, 0x1A0, 1, "ɵơ"),
  (0x1A2, 0x1A6, 2, "ƣƥʀ"), (0x1A7, 0x1A9, 2, "ƨʃ"), (0x1AC, 0x1AE, 2, "ƭʈ"),
  (0x1AF, 0x1B7, 2, "ưʊƴƶʒ"), (0x1B2, 0x1B2, 1, "ʋ"), (0x1B8, 0x1B8, 1, "ƹ"),
  (0x1BC, 0x1BC, 1, "ƽ"), (0x1CD, 0x1DB, 2, "ǎǐǒǔǖǘǚǜ"), (0x1DE, 0x1EE, 2, "ǟǡǣǥǧǩǫǭǯ"),
  (0x1F4, 0x232, 2, "ǵƕǹǻǽǿȁȃȅȇȉȋȍȏȑȓȕȗșțȝȟƞȣȥȧȩȫȭȯȱȳ"), (0x1F7, 0x1F7, 1, "ƿ"),
  (0x23A, 0x23B, 1, "ⱥȼ"), (0x23D, 0x23E, 1, "ƚⱦ"), (0x241, 0x245, 2, "ɂƀʌ"),
  (0x244, 0x24E, 2, "ʉɇɉɋɍɏ"), (0x2B0, 0x2B8, 1, "hɦjrɹɻʁwy"), (0x2E0, 0x2E4, 1, "ɣlsxʕ"),
  (0x340, 0x341, 1, "\u0300\u0301"), (0x343, 0x345, 2, "\u0313ι"), (0x370, 0x376, 2, "ͱͳʹͷ"),
  (0x37E, 0x37F, 1, ";ϳ"), (0x386, 0x38A, 1, "ά·έήί"), (0x38C, 0x38E, 2, "όύ"),
  (0x38F, 0x3AB, 2, "ώαγεηιλνορσυχωϋ"), (0x392, 0x3A0, 2, "βδζθκμξπ"), (0x3A4, 0x3AA, 2, "τφψϊ"),
  (0x3CF, 0x3D6, 1, "ϗβθυύϋφπ"), (0x3D8, 0x3F4, 2, "ϙϛϝϟϡϣϥϧϩϫϭϯκσθ"), (0x3F1, 0x3F1, 1, "ρ"),
  (0x3F5, 0x3F9, 2, "εϸσ"), (0x3FA, 0x3FA, 1, "ϻ"),
  (0x3FD, 0x42F, 1, "ͻͼͽѐёђѓєѕіїјљњћќѝўџабвгдежзийклмнопрстуфхцчшщъыьэюя"),
  (0x460, 0x480, 2, "ѡѣѥѧѩѫѭѯѱѳѵѷѹѻѽѿҁ"), (0x48A, 0x4C0, 2, "ҋҍҏґғҕҗҙқҝҟҡңҥҧҩҫҭүұҳҵҷҹһҽҿӏ"),
  (0x4C1, 0x4CD, 2, "ӂӄӆӈӊӌӎ"),
  (0x4D0, 0x52E, 2, "ӑӓӕӗәӛӝӟӡӣӥӧөӫӭӯӱӳӵӷӹӻӽӿԁԃԅԇԉԋԍԏԑԓԕԗԙԛԝԟԡԣԥԧԩԫԭԯ"),
  (0x531, 0x556, 1, "աբգդեզէըթժիլխծկհձղճմյնշոչպջռսվտրցւփքօֆ"), (0xF0C, 0xF0C, 1, "་"),
  (0x10A0, 0x10C5, 1, "ⴀⴁⴂⴃⴄⴅⴆⴇⴈⴉⴊⴋⴌⴍⴎⴏⴐⴑⴒⴓⴔⴕⴖⴗⴘⴙⴚⴛⴜⴝⴞⴟⴠⴡⴢⴣⴤⴥ"), (0x10C7, 0x10C7, 1, "ⴧ"),
  (0x10CD, 0x10CD, 1, "ⴭ"), (0x10FC, 0x10FC, 1, "ნ"), (0x13F8, 0x13FD, 1, "ᏰᏱᏲᏳᏴᏵ"),
  (0x1C80, 0x1C89, 1, "вдосттъѣꙋᲊ"),
  (0x1C90, 0x1CBA, 1, "აბგდევზთიკლმნოპჟრსტუფქღყშჩცძწჭხჯჰჱჲჳჴჵჶჷჸჹჺ"), (0x1CBD, 0x1CBF, 1, "ჽჾჿ"),
  (0x1D2C, 0x1D2E, 1, "aæb"), (0x1D30, 0x1D3A, 1, "deǝghijklmn"),
  (0x1D3C, 0x1D4D, 1, "oȣprtuwaɐɑᴂbdeəɛɜg"), (0x1D4F, 0x1D6A, 1, "kmŋoɔᴖᴗptuᴝɯvᴥβγδφχiruvβγρφχ"),
  (0x1D78, 0x1D78, 1, "н"), (0x1D9B, 0x1DBF, 1, "ɒcɕðɜfɟɡɥɨɩɪᵻʝɭᶅʟɱɰɲɳɴɵɸʂʃƫʉʊᴜʋʌzʐʑʒθ"),
  (0x1E00, 0x1E8C, 2, "ḁḃḅḇḉḋḍḏḑḓḕḗḙḛḝḟḡḣḥḧḩḫḭḯḱḳḵḷḹḻḽḿṁṃṅṇṉṋṍṏṑṓṕṗṙṛṝṟṡṣṥṧṩṫṭṯṱṳṵṷṹṻṽṿẁẃẅẇẉẋẍ"),
  (0x1E8E, 0x1E94, 2, "ẏẑẓẕ"), (0x1E9B, 0x1E9B, 1, "ṡ"),
  (0x1E9E, 0x1EFE, 2, "ßạảấầẩẫậắằẳẵặẹẻẽếềểễệỉịọỏốồổỗộớờởỡợụủứừửữựỳỵỷỹỻỽỿ"),
  (0x1F08, 0x1F0F, 1, "ἀἁἂἃἄἅἆἇ"), (0x1F18, 0x1F1D, 1, "ἐἑἒἓἔἕ"), (0x1F28, 0x1F2F, 1, "ἠἡἢἣἤἥἦἧ"),
  (0x1F38, 0x1F3F, 1, "ἰἱἲἳἴἵἶἷ"), (0x1F48, 0x1F4D, 1, "ὀὁὂὃὄὅ"), (0x1F59, 0x1F5F, 2, "ὑὓὕὗ"),
  (0x1F68, 0x1F6F, 1, "ὠὡὢὣὤὥὦὧ"), (0x1F71, 0x1F7D, 2, "άέήίόύώ"), (0x1FB8, 0x1FBB, 1, "ᾰᾱὰά"),
  (0x1FBE, 0x1FBE, 1, "ι"), (0x1FC8, 0x1FCB, 1, "ὲέὴή"), (0x1FD3, 0x1FD3, 1, "ΐ"),
  (0x1FD8, 0x1FDB, 1, "ῐῑὶί"), (0x1FE3, 0x1FE3, 1, "ΰ"), (0x1FE8, 0x1FEC, 1, "ῠῡὺύῥ"),
  (0x1FEF, 0x1FEF, 1, "\x60"), (0x1FF8, 0x1FFB, 1, "ὸόὼώ"), (0x2000, 0x200A, 1, "           "),
  (0x2011, 0x2011, 1, "‐"), (0x202F, 0x202F, 1, " "), (0x205F, 0x205F, 1, " "),
  (0x2070, 0x2071, 1, "0i"), (0x2074, 0x208E, 1, "456789+−=()n0123456789+−=()"),
  (0x2090, 0x209C, 1, "aeoxəhklmnpst"), (0x2102, 0x2102, 1, "c"), (0x2107, 0x2107, 1, "ɛ"),
  (0x210A, 0x2113, 1, "ghhhhħiill"), (0x2115, 0x2115, 1, "n"), (0x2119, 0x211D, 1, "pqrrr"),
  (0x2124, 0x212C, 2, "zωzkb"), (0x212B, 0x2139, 2, "åcefm\u05d0\u05d2i"),
  (0x2130, 0x2138, 2, "eⅎo\u05d1\u05d3"), (0x213C, 0x2140, 1, "πγγπ∑"),
  (0x2145, 0x2149, 1, "ddeij"), (0x2160, 0x2160, 1, "i"), (0x2164, 0x2164, 1, "v"),
  (0x2169, 0x2169, 1, "x"), (0x216C, 0x2170, 1, "lcdmi"), (0x2174, 0x2174, 1, "v"),
  (0x2179, 0x2179, 1, "x"), (0x217C, 0x217F, 1, "lcdm"), (0x2183, 0x2183, 1, "ↄ"),
  (0x2329, 0x232A, 1, "〈〉"), (0x2460, 0x2468, 1, "123456789"),
  (0x24B6, 0x24EA, 1, "abcdefghijklmnopqrstuvwxyzabcdefghijklmnopqrstuvwxyz0"),
  (0x2C00, 0x2C2F, 1, "ⰰⰱⰲⰳⰴⰵⰶⰷⰸⰹⰺⰻⰼⰽⰾⰿⱀⱁⱂⱃⱄⱅⱆⱇⱈⱉⱊⱋⱌⱍⱎⱏⱐⱑⱒⱓⱔⱕⱖⱗⱘⱙⱚⱛⱜⱝⱞⱟ"),
  (0x2C60, 0x2C64, 2, "ⱡɫɽ"), (0x2C63, 0x2C63, 1, "ᵽ"), (0x2C67, 0x2C6F, 2, "ⱨⱪⱬɑɐ"),
  (0x2C6E, 0x2C72, 2, "ɱɒⱳ"), (0x2C75, 0x2C75, 1, "ⱶ"), (0x2C7C, 0x2C80, 1, "jvȿɀⲁ"),
  (0x2C82, 0x2CE2, 2, "ⲃⲅⲇⲉⲋⲍⲏⲑⲓⲕⲗⲙⲛⲝⲟⲡⲣⲥⲧⲩⲫⲭⲯⲱⲳⲵⲷⲹⲻⲽⲿⳁⳃⳅⳇⳉⳋⳍⳏⳑⳓⳕⳗⳙⳛⳝⳟⳡⳣ"),
  (0x2CEB, 0x2CED, 2, "ⳬⳮ"), (0x2CF2, 0x2CF2, 1, "ⳳ"), (0x2D6F, 0x2D6F, 1, "ⵡ"),
  (0x2E9F, 0x2E9F, 1, "母"), (0x2EF3, 0x2EF3, 1, "龟"),
  (0x2F00, 0x2F46, 1, "一丨丶丿乙亅二亠人儿入八冂冖冫几凵刀力勹匕匚匸十卜卩厂厶又口囗土士夂夊夕大女子宀寸小尢尸屮山巛工己巾干幺广廴廾弋弓彐彡彳心戈戶手支攴文斗斤方无"),
  (0x2F47, 0x2F8D, 1, "日曰月木欠止歹殳毋比毛氏气水火爪父爻爿片牙牛犬玄玉瓜瓦甘生用田疋疒癶白皮皿目矛矢石示禸禾穴立竹米糸缶网羊羽老而耒耳聿肉臣自至臼舌舛舟艮色艸虍虫"),
  (0x2F8E, 0x2FD4, 1, "血行衣襾見角言谷豆豕豸貝赤走足身車辛辰辵邑酉釆里金長門阜隶隹雨靑非面革韋韭音頁風飛食首香馬骨高髟鬥鬯鬲鬼魚鳥鹵鹿麥麻黃黍黑黹黽鼎鼓鼠鼻齊齒龍龜"),
  (0x2FD5, 0x2FD5, 1, "龠"), (0x3000, 0x3002, 2, " ."), (0x3036, 0x303A, 2, "〒十卅"),
  (0x3039, 0x3039, 1, "卄"),
  (0x3131, 0x3163, 1, "ᄀᄁᆪᄂᆬᆭᄃᄄᄅᆰᆱᆲᆳᆴᆵᄚᄆᄇᄈᄡᄉᄊᄋᄌᄍᄎᄏᄐᄑ하ᅢᅣᅤᅥᅦᅧᅨᅩᅪᅫᅬᅭᅮᅯᅰᅱᅲᅳᅴᅵ"),
  (0x3165, 0x318E, 1, "ᄔᄕᇇᇈᇌᇎᇓᇗᇙᄜᇝᇟᄝᄞᄠᄢᄣᄧᄩᄫᄬᄭᄮᄯᄲᄶᅀᅇᅌᇱᇲᅗᅘᅙᆄᆅᆈᆑᆒᆔᆞᆡ"),
  (0x3192, 0x319F, 1, "一二三四上中下甲乙丙丁天地人"), (0x3244, 0x3247, 1, "問幼文箏"),
  (0x3260, 0x327B, 1, "ᄀᄂᄃᄅᄆᄇᄉᄋᄌᄎᄏᄐᄑᄒ가나다라마바사아자차카타파하"),
  (0x327E, 0x32B0, 2, "우一三五七九月水金日有名財労男適印項写上下右宗監資夜"),
  (0x3281, 0x32AF, 2, "二四六八十火木土株社特祝秘女優注休正中左医学企協"),
  (0x32D0, 0x32FE, 1, "アイウエオカキクケコサシスセソタチツテトナニヌネノハヒフヘホマミムメモヤユヨラリルレロワヰヱヲ"),
  (0xA640, 0xA66C, 2, "ꙁꙃꙅꙇꙉꙋꙍꙏꙑꙓꙕꙗꙙꙛꙝꙟꙡꙣꙥꙧꙩꙫꙭ"), (0xA680, 0xA69C, 2, "ꚁꚃꚅꚇꚉꚋꚍꚏꚑꚓꚕꚗꚙꚛъ"),
  (0xA69D, 0xA69D, 1, "ь"), (0xA722, 0xA72E, 2, "ꜣꜥꜧꜩꜫꜭꜯ"),
  (0xA732, 0xA770, 2, "ꜳꜵꜷꜹꜻꜽꜿꝁꝃꝅꝇꝉꝋꝍꝏꝑꝓꝕꝗꝙꝛꝝꝟꝡꝣꝥꝧꝩꝫꝭꝯꝯ"), (0xA779, 0xA77D, 2, "ꝺꝼᵹ"),
  (0xA77E, 0xA786, 2, "ꝿꞁꞃꞅꞇ"), (0xA78B, 0xA78D, 2, "ꞌɥ"), (0xA790, 0xA792, 2, "ꞑꞓ"),
  (0xA796, 0xA7C6, 2, "ꞗꞙꞛꞝꞟꞡꞣꞥꞧꞩɦɡɪʞʝꞵꞷꞹꞻꞽꞿꟁꟃꞔᶎ"), (0xA7AB, 0xA7AD, 2, "ɜɬ"),
  (0xA7B1, 0xA7B3, 2, "ʇꭓ"), (0xA7C5, 0xA7CB, 2, "ʂꟈꟊɤ"), (0xA7CC, 0xA7DC, 2, "ꟍ꟏ꟑꟓꟕꟗꟙꟛƛ"),
  (0xA7F1, 0xA7F5, 1, "scfqꟶ"), (0xA7F8, 0xA7F9, 1, "ħœ"), (0xAB5C, 0xAB5F, 1, "ꜧꬷɫꭒ"),
  (0xAB69, 0xAB69, 1, "ʍ"),
  (0xAB70, 0xABB6, 1, "ᎠᎡᎢᎣᎤᎥᎦᎧᎨᎩᎪᎫᎬᎭᎮᎯᎰᎱᎲᎳᎴᎵᎶᎷᎸᎹᎺᎻᎼᎽᎾᎿᏀᏁᏂᏃᏄᏅᏆᏇᏈᏉᏊᏋᏌᏍᏎᏏᏐᏑᏒᏓᏔᏕᏖᏗᏘᏙᏚᏛᏜᏝᏞᏟᏠᏡᏢᏣᏤᏥᏦ"),
  (0xABB7, 0xABBF, 1, "ᏧᏨᏩᏪᏫᏬᏭᏮᏯ"),
  (0xF900, 0xF946, 1, "豈更車賈滑串句龜龜契金喇奈懶癩羅蘿螺裸邏樂洛烙珞落酪駱亂卵欄爛蘭鸞嵐濫藍襤拉臘蠟廊朗浪狼郎來冷勞擄櫓爐盧老蘆虜路露魯鷺碌祿綠菉錄鹿論壟弄籠聾牢"),
  (0xF947, 0xF98D, 1, "磊賂雷壘屢樓淚漏累縷陋勒肋凜凌稜綾菱陵讀拏樂諾丹寧怒率異北磻便復不泌數索參塞省葉說殺辰沈拾若掠略亮兩凉梁糧良諒量勵呂女廬旅濾礪閭驪麗黎力曆歷轢"),
  (0xF98E, 0xF9D4, 1, "年憐戀撚漣煉璉秊練聯輦蓮連鍊列劣咽烈裂說廉念捻殮簾獵令囹寧嶺怜玲瑩羚聆鈴零靈領例禮醴隸惡了僚寮尿料樂燎療蓼遼龍暈阮劉杻柳流溜琉留硫紐類六戮陸倫"),
  (0xF9D5, 0xFA0D, 1, "崙淪輪律慄栗率隆利吏履易李梨泥理痢罹裏裡里離匿溺吝燐璘藺隣鱗麟林淋臨立笠粒狀炙識什茶刺切度拓糖宅洞暴輻行降見廓兀嗀"),
  (0xFA10, 0xFA12, 2, "塚晴"), (0xFA15, 0xFA1E, 1, "凞猪益礼神祥福靖精羽"), (0xFA20, 0xFA22, 2, "蘒諸"),
  (0xFA25, 0xFA26, 1, "逸都"),
  (0xFA2A, 0xFA6D, 1, "飯飼館鶴郞隷侮僧免勉勤卑喝嘆器塀墨層屮悔慨憎懲敏既暑梅海渚漢煮爫琢碑社祉祈祐祖祝禍禎穀突節練縉繁署者臭艹艹著褐視謁謹賓贈辶逸難響頻恵𤋮舘"),
  (0xFA70, 0xFAB6, 1, "並况全侀充冀勇勺喝啕喙嗢塚墳奄奔婢嬨廒廙彩徭惘慎愈憎慠懲戴揄搜摒敖晴朗望杖歹殺流滛滋漢瀞煮瞧爵犯猪瑱甆画瘝瘟益盛直睊着磌窱節类絛練缾者荒華蝹襁"),
  (0xFAB7, 0xFAD9, 1, "覆視調諸請謁諾諭謹變贈輸遲醙鉶陼難靖韛響頋頻鬒龜𢡊𢡄𣏕㮝䀘䀹𥉉𥳐𧻓齃龎"),
  (0xFB20, 0xFB29, 1, "\u05e2\u05d0\u05d3\u05d4\u05db\u05dc\u05dd\u05e8\u05ea+"),
  (0xFB50, 0xFB5A, 1, "\u0671\u0671\u067b\u067b\u067b\u067b\u067e\u067e\u067e\u067e\u0680"),
  (0xFB5B, 0xFB65, 1, "\u0680\u0680\u0680\u067a\u067a\u067a\u067a\u067f\u067f\u067f\u067f"),
  (0xFB66, 0xFB70, 1, "\u0679\u0679\u0679\u0679\u06a4\u06a4\u06a4\u06a4\u06a6\u06a6\u06a6"),
  (0xFB71, 0xFB7B, 1, "\u06a6\u0684\u0684\u0684\u0684\u0683\u0683\u0683\u0683\u0686\u0686"),
  (0xFB7C, 0xFB86, 1, "\u0686\u0686\u0687\u0687\u0687\u0687\u068d\u068d\u068c\u068c\u068e"),
  (0xFB87, 0xFB91, 1, "\u068e\u0688\u0688\u0698\u0698\u0691\u0691\u06a9\u06a9\u06a9\u06a9"),
  (0xFB92, 0xFB9C, 1, "\u06af\u06af\u06af\u06af\u06b3\u06b3\u06b3\u06b3\u06b1\u06b1\u06b1"),
  (0xFB9D, 0xFBA7, 1, "\u06b1\u06ba\u06ba\u06bb\u06bb\u06bb\u06bb\u06c0\u06c0\u06c1\u06c1"),
  (0xFBA8, 0xFBB1, 1, "\u06c1\u06c1\u06be\u06be\u06be\u06be\u06d2\u06d2\u06d3\u06d3"),
  (0xFBD3, 0xFBDC, 1, "\u06ad\u06ad\u06ad\u06ad\u06c7\u06c7\u06c6\u06c6\u06c8\u06c8"),
  (0xFBDE, 0xFBE8, 1, "\u06cb\u06cb\u06c5\u06c5\u06c9\u06c9\u06d0\u06d0\u06d0\u06d0\u0649"),
  (0xFBE9, 0xFBE9, 1, "\u0649"), (0xFBFC, 0xFBFF, 1, "\u06cc\u06cc\u06cc\u06cc"),
  (0xFE10, 0xFE11, 1, ",、"), (0xFE13, 0xFE18, 1, ":;!?〖〗"),
  (0xFE31, 0xFE44, 1, "—–__()\x7b\x7d〔〕【】《》〈〉「」『』"), (0xFE47, 0xFE48, 1, "[]"),
  (0xFE4D, 0xFE51, 1, "___,、"), (0xFE54, 0xFE66, 1, ";:?!—()\x7b\x7d〔〕#&*+-<>="),
  (0xFE68, 0xFE6B, 1, "\x5c$%@"),
  (0xFE80, 0xFE8A, 1, "\u0621\u0622\u0622\u0623\u0623\u0624\u0624\u0625\u0625\u0626\u0626"),
  (0xFE8B, 0xFE95, 1, "\u0626\u0626\u0627\u0627\u0628\u0628\u0628\u0628\u0629\u0629\u062a"),
  (0xFE96, 0xFEA0, 1, "\u062a\u062a\u062a\u062b\u062b\u062b\u062b\u062c\u062c\u062c\u062c"),
  (0xFEA1, 0xFEAB, 1, "\u062d\u062d\u062d\u062d\u062e\u062e\u062e\u062e\u062f\u062f\u0630"),
  (0xFEAC, 0xFEB6, 1, "\u0630\u0631\u0631\u0632\u0632\u0633\u0633\u0633\u0633\u0634\u0634"),
  (0xFEB7, 0xFEC1, 1, "\u0634\u0634\u0635\u0635\u0635\u0635\u0636\u0636\u0636\u0636\u0637"),
  (0xFEC2, 0xFECC, 1, "\u0637\u0637\u0637\u0638\u0638\u0638\u0638\u0639\u0639\u0639\u0639"),
  (0xFECD, 0xFED7, 1, "\u063a\u063a\u063a\u063a\u0641\u0641\u0641\u0641\u0642\u0642\u0642"),
  (0xFED8, 0xFEE2, 1, "\u0642\u0643\u0643\u0643\u0643\u0644\u0644\u0644\u0644\u0645\u0645"),
  (0xFEE3, 0xFEED, 1, "\u0645\u0645\u0646\u0646\u0646\u0646\u0647\u0647\u0647\u0647\u0648"),
  (0xFEEE, 0xFEF4, 1, "\u0648\u0649\u0649\u064a\u064a\u064a\u064a"),
  (0xFF01, 0xFF3E, 1, "!\x22#$%&\x27()*+,-./0123456789:;<=>?@abcdefghijklmnopqrstuvwxyz[\x5c]^"),
  (0xFF3F, 0xFF7C, 1, "_\x60abcdefghijklmnopqrstuvwxyz\x7b|\x7d~⦅⦆.「」、・ヲァィゥェォャュョッーアイウエオカキクケコサシ"),
  (0xFF7D, 0xFF9F, 1, "スセソタチツテトナニヌネノハヒフヘホマミムメモヤユヨラリルレロワン\u3099\u309a"),
  (0xFFA1, 0xFFBE, 1, "ᄀᄁᆪᄂᆬᆭᄃᄄᄅᆰᆱᆲᆳᆴᆵᄚᄆᄇᄈᄡᄉᄊᄋᄌᄍᄎᄏᄐᄑᄒ"), (0xFFC2, 0xFFC7, 1, "ᅡᅢᅣᅤᅥᅦ"),
  (0xFFCA, 0xFFCF, 1, "ᅧᅨᅩᅪᅫᅬ"), (0xFFD2, 0xFFD7, 1, "ᅭᅮᅯᅰᅱᅲ"), (0xFFDA, 0xFFDC, 1, "ᅳᅴᅵ"),
  (0xFFE0, 0xFFE2, 1, "¢£¬"), (0xFFE4, 0xFFE6, 1, "¦¥₩"), (0xFFE8, 0xFFEE, 1, "│←↑→↓■○"),
  (0x10781, 0x10785, 1, "ːˑæʙɓ"),
  (0x10787, 0x107B0, 1, "ʣꭦʥʤɖɗᶑɘɞʩɤɢɠʛħʜɧʄʪʫɬ𝼄ꞎɮ𝼅ʎ𝼆øɶɷqɺ𝼈ɽɾʀʨʦꭧʧʈⱱ"),
  (0x107B2, 0x107BA, 1, "ʏʡʢʘǀǁǂ𝼊𝼞"),
  (0x1CCD6, 0x1CCF9, 1, "abcdefghijklmnopqrstuvwxyz0123456789"),
  (0x1D400, 0x1D444, 1, "abcdefghijklmnopqrstuvwxyzabcdefghijklmnopqrstuvwxyzabcdefghijklmnopq"),
  (0x1D445, 0x1D454, 1, "rstuvwxyzabcdefg"),
  (0x1D456, 0x1D49A, 1, "ijklmnopqrstuvwxyzabcdefghijklmnopqrstuvwxyzabcdefghijklmnopqrstuvwxy"),
  (0x1D49B, 0x1D49C, 1, "za"), (0x1D49E, 0x1D49F, 1, "cd"), (0x1D4A2, 0x1D4A2, 1, "g"),
  (0x1D4A5, 0x1D4A6, 1, "jk"), (0x1D4A9, 0x1D4AC, 1, "nopq"),
  (0x1D4AE, 0x1D4B9, 1, "stuvwxyzabcd"),
  (0x1D4BB, 0x1D509, 2, "fhjlnprtvxzbdfhjlnprtvxzbdfhjlnprtvxzbdf"), (0x1D4BE, 0x1D4C2, 2, "ikm"),
  (0x1D4C6, 0x1D504, 2, "qsuwyacegikmoqsuwyacegikmoqsuwya"), (0x1D508, 0x1D50A, 2, "eg"),
  (0x1D50D, 0x1D514, 1, "jklmnopq"), (0x1D516, 0x1D51C, 1, "stuvwxy"),
  (0x1D51E, 0x1D539, 1, "abcdefghijklmnopqrstuvwxyzab"), (0x1D53B, 0x1D53E, 1, "defg"),
  (0x1D540, 0x1D544, 1, "ijklm"), (0x1D546, 0x1D546, 1, "o"), (0x1D54A, 0x1D550, 1, "stuvwxy"),
  (0x1D552, 0x1D596, 1, "abcdefghijklmnopqrstuvwxyzabcdefghijklmnopqrstuvwxyzabcdefghijklmnopq"),
  (0x1D597, 0x1D5DB, 1, "rstuvwxyzabcdefghijklmnopqrstuvwxyzabcdefghijklmnopqrstuvwxyzabcdefgh"),
  (0x1D5DC, 0x1D620, 1, "ijklmnopqrstuvwxyzabcdefghijklmnopqrstuvwxyzabcdefghijklmnopqrstuvwxy"),
  (0x1D621, 0x1D665, 1, "zabcdefghijklmnopqrstuvwxyzabcdefghijklmnopqrstuvwxyzabcdefghijklmnop"),
  (0x1D666, 0x1D6A5, 1, "qrstuvwxyzabcdefghijklmnopqrstuvwxyzabcdefghijklmnopqrstuvwxyzıȷ"),
  (0x1D6A8, 0x1D6EC, 1, "αβγδεζηθικλμνξοπρθστυφχψω∇αβγδεζηθικλμνξοπρσστυφχψω∂εθκφρπαβγδεζηθικλ"),
  (0x1D6ED, 0x1D731, 1, "μνξοπρθστυφχψω∇αβγδεζηθικλμνξοπρσστυφχψω∂εθκφρπαβγδεζηθικλμνξοπρθστυφ"),
  (0x1D732, 0x1D776, 1, "χψω∇αβγδεζηθικλμνξοπρσστυφχψω∂εθκφρπαβγδεζηθικλμνξοπρθστυφχψω∇αβγδεζη"),
  (0x1D777, 0x1D7BB, 1, "θικλμνξοπρσστυφχψω∂εθκφρπαβγδεζηθικλμνξοπρθστυφχψω∇αβγδεζηθικλμνξοπρσ"),
  (0x1D7BC, 0x1D7CB, 1, "στυφχψω∂εθκφρπϝϝ"),
  (0x1D7CE, 0x1D7FF, 1, "01234567890123456789012345678901234567890123456789"),
  (0x1E030, 0x1E06D, 1, "абвгдежзиклмопрстуфхцчшыэюꚉәіјөүӏабвгдежзиклопсуфхцчшъыґіѕџҫꙑұ"),
  (0x1EE00, 0x1EE03, 1, "\u0627\u0628\u062c\u062f"),
  (0x1EE05, 0x1EE0F, 1, "\u0648\u0632\u062d\u0637\u064a\u0643\u0644\u0645\u0646\u0633\u0639"),
  (0x1EE10, 0x1EE1A, 1, "\u0641\u0635\u0642\u0631\u0634\u062a\u062b\u062e\u0630\u0636\u0638"),
  (0x1EE1B, 0x1EE1F, 1, "\u063a\u066e\u06ba\u06a1\u066f"), (0x1EE21, 0x1EE22, 1, "\u0628\u062c"),
  (0x1EE24, 0x1EE24, 1, "\u0647"), (0x1EE27, 0x1EE31, 2, "\u062d\u064a\u0644\u0646\u0639\u0635"),
  (0x1EE2A, 0x1EE36, 2, "\u0643\u0645\u0633\u0641\u0642\u0634\u062b"),
  (0x1EE35, 0x1EE3B, 2, "\u062a\u062e\u0636\u063a"), (0x1EE42, 0x1EE42, 1, "\u062c"),
  (0x1EE47, 0x1EE51, 2, "\u062d\u064a\u0644\u0646\u0639\u0635"), (0x1EE4E, 0x1EE4E, 1, "\u0633"),
  (0x1EE52, 0x1EE54, 2, "\u0642\u0634"),
  (0x1EE57, 0x1EE61, 2, "\u062e\u0636\u063a\u06ba\u066f\u0628"),
  (0x1EE62, 0x1EE64, 2, "\u062c\u0647"), (0x1EE67, 0x1EE6A, 1, "\u062d\u0637\u064a\u0643"),
  (0x1EE6C, 0x1EE72, 1, "\u0645\u0646\u0633\u0639\u0641\u0635\u0642"),
  (0x1EE74, 0x1EE77, 1, "\u0634\u062a\u062b\u062e"),
  (0x1EE79, 0x1EE7C, 1, "\u0636\u0638\u063a\u066e"),
  (0x1EE7E, 0x1EE88, 2, "\u06a1\u0627\u062c\u0647\u0632\u0637"),
  (0x1EE81, 0x1EE95, 2, "\u0628\u062f\u0648\u062d\u064a\u0644\u0646\u0639\u0635\u0631\u062a"),
  (0x1EE97, 0x1EE9B, 2, "\u062e\u0636\u063a"),
  (0x1EE8C, 0x1EE9A, 2, "\u0645\u0633\u0641\u0642\u0634\u062b\u0630\u0638"),
  (0x1EEA1, 0x1EEA3, 1, "\u0628\u062c\u062f"),
  (0x1EEA5, 0x1EEA9, 1, "\u0648\u0632\u062d\u0637\u064a"),
  (0x1EEAB, 0x1EEB5, 1, "\u0644\u0645\u0646\u0633\u0639\u0641\u0635\u0642\u0631\u0634\u062a"),
  (0x1EEB6, 0x1EEBB, 1, "\u062b\u062e\u0630\u0636\u0638\u063a"), (0x1F12B, 0x1F12C, 1, "cr"),
  (0x1F130, 0x1F149, 1, "abcdefghijklmnopqrstuvwxyz"), (0x1F202, 0x1F202, 1, "サ"),
  (0x1F210, 0x1F23B, 1, "手字双デ二多解天交映無料前後再新初終生販声吹演投捕一三遊左中右指走打禁空合満有月申割営配"),
  (0x1F250, 0x1F251, 1, "得可"), (0x1FBF0, 0x1FBF9, 1, "0123456789"),
  (0x2F800, 0x2F844, 1, "丽丸乁𠄢你侮侻倂偺備僧像㒞𠘺免兔兤具𠔜㒹內再𠕋冗冤仌冬况𩇟凵刃㓟刻剆割剷㔕勇勉勤勺包匆北卉卑博即卽卿卿卿𠨬灰及叟𠭣叫叱吆咞吸呈周咢哶唐啓啣"),
  (0x2F845, 0x2F889, 1, "善善喙喫喳嗂圖嘆圗噑噴切壮城埴堍型堲報墬𡓤売壷夆多夢奢𡚨𡛪姬娛娧姘婦㛮㛼嬈嬾嬾𡧈寃寘寧寳𡬘寿将当尢㞁屠屮峀岍𡷤嵃𡷦嵮嵫嵼巡巢㠯巽帨帽幩㡢𢆃"),
  (0x2F88A, 0x2F8CE, 1, "㡼庰庳庶廊𪎒廾𢌱𢌱舁弢弢㣇𣊸𦇚形彫㣣徚忍志忹悁㤺㤜悔𢛔惇慈慌慎慌慺憎憲憤憯懞懲懶成戛扝抱拔捐𢬌挽拼捨掃揤𢯱搢揅掩㨮摩摾撝摷㩬敏敬𣀊旣書晉㬙"),
  (0x2F8CF, 0x2F913, 1, "暑㬈㫤冒冕最暜肭䏙朗望朡杞杓𣏃㭉柺枅桒梅𣑭梎栟椔㮝楂榣槪檨𣚣櫛㰘次𣢧歔㱎歲殟殺殻𣪍𡴋𣫺汎𣲼沿泍汧洖派海流浩浸涅𣴞洴港湮㴳滋滇𣻑淹潮𣽞𣾎濆瀹"),
  (0x2F914, 0x2F958, 1, "瀞瀛㶖灊災灷炭𠔥煅𤉣熜𤎫爨爵牐𤘈犀犕𤜵𤠔獺王㺬玥㺸㺸瑇瑜瑱璅瓊㼛甤𤰶甾𤲒異𢆟瘐𤾡𤾸𥁄㿼䀈直𥃳𥃲𥄙𥄳眞真真睊䀹瞋䁆䂖𥐝硎碌磌䃣𥘦祖𥚚𥛅福秫䄯"),
  (0x2F959, 0x2F99D, 1, "穀穊穏𥥼𥪧𥪧竮䈂𥮫篆築䈧𥲀糒䊠糨糣紀𥾆絣䌁緇縂繅䌴𦈨𦉇䍙𦋙罺𦌾羕翺者𦓚𦔣聠𦖨聰𣍟䏕育脃䐋脾媵𦞧𦞵𣎓𣎜舁舄辞䑫芑芋芝劳花芳芽苦𦬼若茝荣莭茣莽"),
  (0x2F99E, 0x2F9E2, 1, "菧著荓菊菌菜𦰶𦵫𦳕䔫蓱蓳蔖𧏊蕤𦼬䕝䕡𦾱𧃒䕫虐虜虧虩蚩蚈蜎蛢蝹蜨蝫螆䗗蟡蠁䗹衠衣𧙧裗裞䘵裺㒻𧢮𧥦䚾䛇誠諭變豕𧲨貫賁贛起𧼯𠠄跋趼跰𠣞軔輸𨗒𨗭邔"),
  (0x2F9E3, 0x2FA1D, 1, "郱鄑𨜮鄛鈸鋗鋘鉼鏹鐕𨯺開䦕閷𨵷䧦雃嶲霣𩅅𩈚䩮䩶韠𩐊䪲𩒖頋頋頩𩖶飢䬳餩馧駂駾䯎𩬰鬒鱀鳽䳎䳭鵧𪃎䳸𪄅𪈎𪊑麻䵖黹黾鼅鼏鼖鼻𪘀")]

/-- The characters that several others replace: the first of some that stand side by side, and
their images. -/
def sequenceRows : Array (Nat × List String) := #[
  (0xA8, [" \u0308"]), (0xAF, [" \u0304"]), (0xB4, [" \u0301"]), (0xB8, [" \u0327"]),
  (0xBC, ["1⁄4", "1⁄2", "3⁄4"]), (0x130, ["i\u0307"]), (0x132, ["ij", "ij"]),
  (0x13F, ["l·", "l·"]), (0x149, ["ʼn"]),
  (0x1C4, ["dž", "dž", "dž", "lj", "lj", "lj", "nj", "nj", "nj"]), (0x1F1, ["dz", "dz", "dz"]),
  (0x2D8, [" \u0306", " \u0307", " \u030a", " \u0328", " \u0303", " \u030b"]),
  (0x344, ["\u0308\u0301"]), (0x37A, [" ι"]), (0x384, [" \u0301", " \u0308\u0301"]),
  (0x587, ["եւ"]), (0x675, ["\u0627\u0674", "\u0648\u0674", "\u06c7\u0674", "\u064a\u0674"]),
  (0x958, ["क\u093c", "ख\u093c", "ग\u093c", "ज\u093c", "ड\u093c", "ढ\u093c", "फ\u093c"]),
  (0x95F, ["य\u093c"]), (0x9DC, ["ড\u09bc", "ঢ\u09bc"]), (0x9DF, ["য\u09bc"]),
  (0xA33, ["ਲ\u0a3c"]), (0xA36, ["ਸ\u0a3c"]), (0xA59, ["ਖ\u0a3c", "ਗ\u0a3c", "ਜ\u0a3c"]),
  (0xA5E, ["ਫ\u0a3c"]), (0xB5C, ["ଡ\u0b3c", "ଢ\u0b3c"]), (0xE33, ["\u0e4dา"]),
  (0xEB3, ["\u0ecdາ"]), (0xEDC, ["ຫນ", "ຫມ"]), (0xF43, ["ག\u0fb7"]), (0xF4D, ["ཌ\u0fb7"]),
  (0xF52, ["ད\u0fb7"]), (0xF57, ["བ\u0fb7"]), (0xF5C, ["ཛ\u0fb7"]), (0xF69, ["ཀ\u0fb5"]),
  (0xF73, ["\u0f71\u0f72"]),
  (0xF75, ["\u0f71\u0f74", "\u0fb2\u0f80", "\u0fb2\u0f71\u0f80", "\u0fb3\u0f80"]),
  (0xF79, ["\u0fb3\u0f71\u0f80"]), (0xF81, ["\u0f71\u0f80"]), (0xF93, ["\u0f92\u0fb7"]),
  (0xF9D, ["\u0f9c\u0fb7"]), (0xFA2, ["\u0fa1\u0fb7"]), (0xFA7, ["\u0fa6\u0fb7"]),
  (0xFAC, ["\u0fab\u0fb7"]), (0xFB9, ["\u0f90\u0fb5"]), (0x1E9A, ["aʾ"]),
  (0x1F80, ["ἀι", "ἁι", "ἂι", "ἃι", "ἄι", "ἅι", "ἆι", "ἇι", "ἀι", "ἁι", "ἂι", "ἃι", "ἄι", "ἅι"]),
  (0x1F8E, ["ἆι", "ἇι", "ἠι", "ἡι", "ἢι", "ἣι", "ἤι", "ἥι", "ἦι", "ἧι", "ἠι", "ἡι", "ἢι", "ἣι"]),
  (0x1F9C, ["ἤι", "ἥι", "ἦι", "ἧι", "ὠι", "ὡι", "ὢι", "ὣι", "ὤι", "ὥι", "ὦι", "ὧι", "ὠι", "ὡι"]),
  (0x1FAA, ["ὢι", "ὣι", "ὤι", "ὥι", "ὦι", "ὧι"]), (0x1FB2, ["ὰι", "αι", "άι"]), (0x1FB7, ["ᾶι"]),
  (0x1FBC, ["αι", " \u0313"]), (0x1FBF, [" \u0313", " \u0342", " \u0308\u0342", "ὴι", "ηι", "ήι"]),
  (0x1FC7, ["ῆι"]), (0x1FCC, ["ηι", " \u0313\u0300", " \u0313\u0301", " \u0313\u0342"]),
  (0x1FDD, [" \u0314\u0300", " \u0314\u0301", " \u0314\u0342"]),
  (0x1FED, [" \u0308\u0300", " \u0308\u0301"]), (0x1FF2, ["ὼι", "ωι", "ώι"]), (0x1FF7, ["ῶι"]),
  (0x1FFC, ["ωι", " \u0301", " \u0314"]), (0x2017, [" \u0333"]), (0x2033, ["′′", "′′′"]),
  (0x2036, ["‵‵", "‵‵‵"]), (0x203C, ["!!"]), (0x203E, [" \u0305"]), (0x2047, ["??", "?!", "!?"]),
  (0x2057, ["′′′′"]), (0x20A8, ["rs"]), (0x2100, ["a/c", "a/s"]), (0x2103, ["°c"]),
  (0x2105, ["c/o", "c/u"]), (0x2109, ["°f"]), (0x2116, ["no"]), (0x2120, ["sm", "tel", "tm"]),
  (0x213B, ["fax"]),
  (0x2150, ["1⁄7", "1⁄9", "1⁄10", "1⁄3", "2⁄3", "1⁄5", "2⁄5", "3⁄5", "4⁄5", "1⁄6", "5⁄6", "1⁄8"]),
  (0x215C, ["3⁄8", "5⁄8", "7⁄8", "1⁄"]), (0x2161, ["ii", "iii", "iv"]),
  (0x2165, ["vi", "vii", "viii", "ix"]), (0x216A, ["xi", "xii"]), (0x2171, ["ii", "iii", "iv"]),
  (0x2175, ["vi", "vii", "viii", "ix"]), (0x217A, ["xi", "xii"]), (0x2189, ["0⁄3"]),
  (0x222C, ["∫∫", "∫∫∫"]), (0x222F, ["∮∮", "∮∮∮"]),
  (0x2469, ["10", "11", "12", "13", "14", "15", "16", "17", "18", "19", "20", "(1)", "(2)"]),
  (0x2476, ["(3)", "(4)", "(5)", "(6)", "(7)", "(8)", "(9)", "(10)", "(11)", "(12)", "(13)"]),
  (0x2481, ["(14)", "(15)", "(16)", "(17)", "(18)", "(19)", "(20)"]),
  (0x249C, ["(a)", "(b)", "(c)", "(d)", "(e)", "(f)", "(g)", "(h)", "(i)", "(j)", "(k)", "(l)"]),
  (0x24A8, ["(m)", "(n)", "(o)", "(p)", "(q)", "(r)", "(s)", "(t)", "(u)", "(v)", "(w)", "(x)"]),
  (0x24B4, ["(y)", "(z)"]), (0x2A0C, ["∫∫∫∫"]), (0x2A74, ["::=", "==", "==="]),
  (0x2ADC, ["⫝\u0338"]), (0x309B, [" \u3099", " \u309a"]), (0x309F, ["より"]), (0x30FF, ["コト"]),
  (0x3200, ["(ᄀ)", "(ᄂ)", "(ᄃ)", "(ᄅ)", "(ᄆ)", "(ᄇ)", "(ᄉ)", "(ᄋ)", "(ᄌ)", "(ᄎ)", "(ᄏ)", "(ᄐ)"]),
  (0x320C, ["(ᄑ)", "(ᄒ)", "(가)", "(나)", "(다)", "(라)", "(마)", "(바)", "(사)", "(아)", "(자)", "(차)"]),
  (0x3218, ["(카)", "(타)", "(파)", "(하)", "(주)", "(오전)", "(오후)"]),
  (0x3220, ["(一)", "(二)", "(三)", "(四)", "(五)", "(六)", "(七)", "(八)", "(九)", "(十)", "(月)", "(火)"]),
  (0x322C, ["(水)", "(木)", "(金)", "(土)", "(日)", "(株)", "(有)", "(社)", "(名)", "(特)", "(財)", "(祝)"]),
  (0x3238, ["(労)", "(代)", "(呼)", "(学)", "(監)", "(企)", "(資)", "(協)", "(祭)", "(休)", "(自)", "(至)"]),
  (0x3250, ["pte", "21", "22", "23", "24", "25", "26", "27", "28", "29", "30", "31", "32", "33"]),
  (0x325E, ["34", "35"]), (0x327C, ["참고", "주의"]),
  (0x32B1, ["36", "37", "38", "39", "40", "41", "42", "43", "44", "45", "46", "47", "48", "49"]),
  (0x32BF, ["50", "1月", "2月", "3月", "4月", "5月", "6月", "7月", "8月", "9月", "10月", "11月", "12月"]),
  (0x32CC, ["hg", "erg", "ev", "ltd"]),
  (0x32FF, ["令和", "アパート", "アルファ", "アンペア", "アール", "イニング", "インチ", "ウォン", "エスクード", "エーカー", "オンス"]),
  (0x330A, ["オーム", "カイリ", "カラット", "カロリー", "ガロン", "ガンマ", "ギガ", "ギニー", "キュリー", "ギルダー", "キロ"]),
  (0x3315, ["キログラム", "キロメートル", "キロワット", "グラム", "グラムトン", "クルゼイロ", "クローネ", "ケース", "コルナ", "コーポ"]),
  (0x331F, ["サイクル", "サンチーム", "シリング", "センチ", "セント", "ダース", "デシ", "ドル", "トン", "ナノ", "ノット", "ハイツ"]),
  (0x332B, ["パーセント", "パーツ", "バーレル", "ピアストル", "ピクル", "ピコ", "ビル", "ファラッド", "フィート", "ブッシェル", "フラン"]),
  (0x3336, ["ヘクタール", "ペソ", "ペニヒ", "ヘルツ", "ペンス", "ページ", "ベータ", "ポイント", "ボルト", "ホン", "ポンド", "ホール"]),
  (0x3342, ["ホーン", "マイクロ", "マイル", "マッハ", "マルク", "マンション", "ミクロン", "ミリ", "ミリバール", "メガ", "メガトン"]),
  (0x334D, ["メートル", "ヤード", "ヤール", "ユアン", "リットル", "リラ", "ルピー", "ルーブル", "レム", "レントゲン", "ワット", "0点"]),
  (0x3359, ["1点", "2点", "3点", "4点", "5点", "6点", "7点", "8点", "9点", "10点", "11点", "12点", "13点"]),
  (0x3366, ["14点", "15点", "16点", "17点", "18点", "19点", "20点", "21点", "22点", "23点", "24点", "hpa"]),
  (0x3372, ["da", "au", "bar", "ov", "pc", "dm", "dm2", "dm3", "iu", "平成", "昭和", "大正", "明治"]),
  (0x337F, ["株式会社", "pa", "na", "μa", "ma", "ka", "kb", "mb", "gb", "cal", "kcal", "pf", "nf"]),
  (0x338C, ["μf", "μg", "mg", "kg", "hz", "khz", "mhz", "ghz", "thz", "μl", "ml", "dl", "kl"]),
  (0x3399, ["fm", "nm", "μm", "mm", "cm", "km", "mm2", "cm2", "m2", "km2", "mm3", "cm3", "m3"]),
  (0x33A6, ["km3", "m∕s", "m∕s2", "pa", "kpa", "mpa", "gpa", "rad", "rad∕s", "rad∕s2", "ps"]),
  (0x33B1, ["ns", "μs", "ms", "pv", "nv", "μv", "mv", "kv", "mv", "pw", "nw", "μw", "mw", "kw"]),
  (0x33BF, ["mw", "kω", "mω"]), (0x33C3, ["bq", "cc", "cd", "c∕kg"]),
  (0x33C8, ["db", "gy", "ha", "hp", "in", "kk", "km", "kt", "lm", "ln", "log", "lx", "mb", "mil"]),
  (0x33D6, ["mol", "ph"]),
  (0x33D9, ["ppm", "pr", "sr", "sv", "wb", "v∕m", "a∕m", "1日", "2日", "3日", "4日", "5日", "6日"]),
  (0x33E6, ["7日", "8日", "9日", "10日", "11日", "12日", "13日", "14日", "15日", "16日", "17日", "18日"]),
  (0x33F2, ["19日", "20日", "21日", "22日", "23日", "24日", "25日", "26日", "27日", "28日", "29日", "30日"]),
  (0x33FE, ["31日", "gal"]), (0xFB00, ["ff", "fi", "fl", "ffi", "ffl", "st", "st"]),
  (0xFB13, ["մն", "մե", "մի", "վն", "մխ"]), (0xFB1D, ["\u05d9\u05b4"]), (0xFB1F, ["\u05f2\u05b7"]),
  (0xFB2A, ["\u05e9\u05c1", "\u05e9\u05c2", "\u05e9\u05bc\u05c1", "\u05e9\u05bc\u05c2"]),
  (0xFB2E, ["\u05d0\u05b7", "\u05d0\u05b8", "\u05d0\u05bc", "\u05d1\u05bc", "\u05d2\u05bc"]),
  (0xFB33, ["\u05d3\u05bc", "\u05d4\u05bc", "\u05d5\u05bc", "\u05d6\u05bc"]),
  (0xFB38, ["\u05d8\u05bc", "\u05d9\u05bc", "\u05da\u05bc", "\u05db\u05bc", "\u05dc\u05bc"]),
  (0xFB3E, ["\u05de\u05bc"]), (0xFB40, ["\u05e0\u05bc", "\u05e1\u05bc"]),
  (0xFB43, ["\u05e3\u05bc", "\u05e4\u05bc"]),
  (0xFB46, ["\u05e6\u05bc", "\u05e7\u05bc", "\u05e8\u05bc", "\u05e9\u05bc", "\u05ea\u05bc"]),
  (0xFB4B, ["\u05d5\u05b9", "\u05d1\u05bf", "\u05db\u05bf", "\u05e4\u05bf", "\u05d0\u05dc"]),
  (0xFBDD, ["\u06c7\u0674"]),
  (0xFBEA, ["\u0626\u0627", "\u0626\u0627", "\u0626\u06d5", "\u0626\u06d5", "\u0626\u0648"]),
  (0xFBEF, ["\u0626\u0648", "\u0626\u06c7", "\u0626\u06c7", "\u0626\u06c6", "\u0626\u06c6"]),
  (0xFBF4, ["\u0626\u06c8", "\u0626\u06c8", "\u0626\u06d0", "\u0626\u06d0", "\u0626\u06d0"]),
  (0xFBF9, ["\u0626\u0649", "\u0626\u0649", "\u0626\u0649"]),
  (0xFC00, ["\u0626\u062c", "\u0626\u062d", "\u0626\u0645", "\u0626\u0649", "\u0626\u064a"]),
  (0xFC05, ["\u0628\u062c", "\u0628\u062d", "\u0628\u062e", "\u0628\u0645", "\u0628\u0649"]),
  (0xFC0A, ["\u0628\u064a", "\u062a\u062c", "\u062a\u062d", "\u062a\u062e", "\u062a\u0645"]),
  (0xFC0F, ["\u062a\u0649", "\u062a\u064a", "\u062b\u062c", "\u062b\u0645", "\u062b\u0649"]),
  (0xFC14, ["\u062b\u064a", "\u062c\u062d", "\u062c\u0645", "\u062d\u062c", "\u062d\u0645"]),
  (0xFC19, ["\u062e\u062c", "\u062e\u062d", "\u062e\u0645", "\u0633\u062c", "\u0633\u062d"]),
  (0xFC1E, ["\u0633\u062e", "\u0633\u0645", "\u0635\u062d", "\u0635\u0645", "\u0636\u062c"]),
  (0xFC23, ["\u0636\u062d", "\u0636\u062e", "\u0636\u0645", "\u0637\u062d", "\u0637\u0645"]),
  (0xFC28, ["\u0638\u0645", "\u0639\u062c", "\u0639\u0645", "\u063a\u062c", "\u063a\u0645"]),
  (0xFC2D, ["\u0641\u062c", "\u0641\u062d", "\u0641\u062e", "\u0641\u0645", "\u0641\u0649"]),
  (0xFC32, ["\u0641\u064a", "\u0642\u062d", "\u0642\u0645", "\u0642\u0649", "\u0642\u064a"]),
  (0xFC37, ["\u0643\u0627", "\u0643\u062c", "\u0643\u062d", "\u0643\u062e", "\u0643\u0644"]),
  (0xFC3C, ["\u0643\u0645", "\u0643\u0649", "\u0643\u064a", "\u0644\u062c", "\u0644\u062d"]),
  (0xFC41, ["\u0644\u062e", "\u0644\u0645", "\u0644\u0649", "\u0644\u064a", "\u0645\u062c"]),
  (0xFC46, ["\u0645\u062d", "\u0645\u062e", "\u0645\u0645", "\u0645\u0649", "\u0645\u064a"]),
  (0xFC4B, ["\u0646\u062c", "\u0646\u062d", "\u0646\u062e", "\u0646\u0645", "\u0646\u0649"]),
  (0xFC50, ["\u0646\u064a", "\u0647\u062c", "\u0647\u0645", "\u0647\u0649", "\u0647\u064a"]),
  (0xFC55, ["\u064a\u062c", "\u064a\u062d", "\u064a\u062e", "\u064a\u0645", "\u064a\u0649"]),
  (0xFC5A, ["\u064a\u064a", "\u0630\u0670", "\u0631\u0670", "\u0649\u0670", " \u064c\u0651"]),
  (0xFC5F, [" \u064d\u0651", " \u064e\u0651", " \u064f\u0651", " \u0650\u0651", " \u0651\u0670"]),
  (0xFC64, ["\u0626\u0631", "\u0626\u0632", "\u0626\u0645", "\u0626\u0646", "\u0626\u0649"]),
  (0xFC69, ["\u0626\u064a", "\u0628\u0631", "\u0628\u0632", "\u0628\u0645", "\u0628\u0646"]),
  (0xFC6E, ["\u0628\u0649", "\u0628\u064a", "\u062a\u0631", "\u062a\u0632", "\u062a\u0645"]),
  (0xFC73, ["\u062a\u0646", "\u062a\u0649", "\u062a\u064a", "\u062b\u0631", "\u062b\u0632"]),
  (0xFC78, ["\u062b\u0645", "\u062b\u0646", "\u062b\u0649", "\u062b\u064a", "\u0641\u0649"]),
  (0xFC7D, ["\u0641\u064a", "\u0642\u0649", "\u0642\u064a", "\u0643\u0627", "\u0643\u0644"]),
  (0xFC82, ["\u0643\u0645", "\u0643\u0649", "\u0643\u064a", "\u0644\u0645", "\u0644\u0649"]),
  (0xFC87, ["\u0644\u064a", "\u0645\u0627", "\u0645\u0645", "\u0646\u0631", "\u0646\u0632"]),
  (0xFC8C, ["\u0646\u0645", "\u0646\u0646", "\u0646\u0649", "\u0646\u064a", "\u0649\u0670"]),
  (0xFC91, ["\u064a\u0631", "\u064a\u0632", "\u064a\u0645", "\u064a\u0646", "\u064a\u0649"]),
  (0xFC96, ["\u064a\u064a", "\u0626\u062c", "\u0626\u062d", "\u0626\u062e", "\u0626\u0645"]),
  (0xFC9B, ["\u0626\u0647", "\u0628\u062c", "\u0628\u062d", "\u0628\u062e", "\u0628\u0645"]),
  (0xFCA0, ["\u0628\u0647", "\u062a\u062c", "\u062a\u062d", "\u062a\u062e", "\u062a\u0645"]),
  (0xFCA5, ["\u062a\u0647", "\u062b\u0645", "\u062c\u062d", "\u062c\u0645", "\u062d\u062c"]),
  (0xFCAA, ["\u062d\u0645", "\u062e\u062c", "\u062e\u0645", "\u0633\u062c", "\u0633\u062d"]),
  (0xFCAF, ["\u0633\u062e", "\u0633\u0645", "\u0635\u062d", "\u0635\u062e", "\u0635\u0645"]),
  (0xFCB4, ["\u0636\u062c", "\u0636\u062d", "\u0636\u062e", "\u0636\u0645", "\u0637\u062d"]),
  (0xFCB9, ["\u0638\u0645", "\u0639\u062c", "\u0639\u0645", "\u063a\u062c", "\u063a\u0645"]),
  (0xFCBE, ["\u0641\u062c", "\u0641\u062d", "\u0641\u062e", "\u0641\u0645", "\u0642\u062d"]),
  (0xFCC3, ["\u0642\u0645", "\u0643\u062c", "\u0643\u062d", "\u0643\u062e", "\u0643\u0644"]),
  (0xFCC8, ["\u0643\u0645", "\u0644\u062c", "\u0644\u062d", "\u0644\u062e", "\u0644\u0645"]),
  (0xFCCD, ["\u0644\u0647", "\u0645\u062c", "\u0645\u062d", "\u0645\u062e", "\u0645\u0645"]),
  (0xFCD2, ["\u0646\u062c", "\u0646\u062d", "\u0646\u062e", "\u0646\u0645", "\u0646\u0647"]),
  (0xFCD7, ["\u0647\u062c", "\u0647\u0645", "\u0647\u0670", "\u064a\u062c", "\u064a\u062d"]),
  (0xFCDC, ["\u064a\u062e", "\u064a\u0645", "\u064a\u0647", "\u0626\u0645", "\u0626\u0647"]),
  (0xFCE1, ["\u0628\u0645", "\u0628\u0647", "\u062a\u0645", "\u062a\u0647", "\u062b\u0645"]),
  (0xFCE6, ["\u062b\u0647", "\u0633\u0645", "\u0633\u0647", "\u0634\u0645", "\u0634\u0647"]),
  (0xFCEB, ["\u0643\u0644", "\u0643\u0645", "\u0644\u0645", "\u0646\u0645", "\u0646\u0647"]),
  (0xFCF0, ["\u064a\u0645", "\u064a\u0647", "\u0640\u064e\u0651", "\u0640\u064f\u0651"]),
  (0xFCF4, ["\u0640\u0650\u0651", "\u0637\u0649", "\u0637\u064a", "\u0639\u0649", "\u0639\u064a"]),
  (0xFCF9, ["\u063a\u0649", "\u063a\u064a", "\u0633\u0649", "\u0633\u064a", "\u0634\u0649"]),
  (0xFCFE, ["\u0634\u064a", "\u062d\u0649", "\u062d\u064a", "\u062c\u0649", "\u062c\u064a"]),
  (0xFD03, ["\u062e\u0649", "\u062e\u064a", "\u0635\u0649", "\u0635\u064a", "\u0636\u0649"]),
  (0xFD08, ["\u0636\u064a", "\u0634\u062c", "\u0634\u062d", "\u0634\u062e", "\u0634\u0645"]),
  (0xFD0D, ["\u0634\u0631", "\u0633\u0631", "\u0635\u0631", "\u0636\u0631", "\u0637\u0649"]),
  (0xFD12, ["\u0637\u064a", "\u0639\u0649", "\u0639\u064a", "\u063a\u0649", "\u063a\u064a"]),
  (0xFD17, ["\u0633\u0649", "\u0633\u064a", "\u0634\u0649", "\u0634\u064a", "\u062d\u0649"]),
  (0xFD1C, ["\u062d\u064a", "\u062c\u0649", "\u062c\u064a", "\u062e\u0649", "\u062e\u064a"]),
  (0xFD21, ["\u0635\u0649", "\u0635\u064a", "\u0636\u0649", "\u0636\u064a", "\u0634\u062c"]),
  (0xFD26, ["\u0634\u062d", "\u0634\u062e", "\u0634\u0645", "\u0634\u0631", "\u0633\u0631"]),
  (0xFD2B, ["\u0635\u0631", "\u0636\u0631", "\u0634\u062c", "\u0634\u062d", "\u0634\u062e"]),
  (0xFD30, ["\u0634\u0645", "\u0633\u0647", "\u0634\u0647", "\u0637\u0645", "\u0633\u062c"]),
  (0xFD35, ["\u0633\u062d", "\u0633\u062e", "\u0634\u062c", "\u0634\u062d", "\u0634\u062e"]),
  (0xFD3A, ["\u0637\u0645", "\u0638\u0645", "\u0627\u064b", "\u0627\u064b"]),
  (0xFD50, ["\u062a\u062c\u0645", "\u062a\u062d\u062c", "\u062a\u062d\u062c"]),
  (0xFD53, ["\u062a\u062d\u0645", "\u062a\u062e\u0645", "\u062a\u0645\u062c"]),
  (0xFD56, ["\u062a\u0645\u062d", "\u062a\u0645\u062e", "\u062c\u0645\u062d"]),
  (0xFD59, ["\u062c\u0645\u062d", "\u062d\u0645\u064a", "\u062d\u0645\u0649"]),
  (0xFD5C, ["\u0633\u062d\u062c", "\u0633\u062c\u062d", "\u0633\u062c\u0649"]),
  (0xFD5F, ["\u0633\u0645\u062d", "\u0633\u0645\u062d", "\u0633\u0645\u062c"]),
  (0xFD62, ["\u0633\u0645\u0645", "\u0633\u0645\u0645", "\u0635\u062d\u062d"]),
  (0xFD65, ["\u0635\u062d\u062d", "\u0635\u0645\u0645", "\u0634\u062d\u0645"]),
  (0xFD68, ["\u0634\u062d\u0645", "\u0634\u062c\u064a", "\u0634\u0645\u062e"]),
  (0xFD6B, ["\u0634\u0645\u062e", "\u0634\u0645\u0645", "\u0634\u0645\u0645"]),
  (0xFD6E, ["\u0636\u062d\u0649", "\u0636\u062e\u0645", "\u0636\u062e\u0645"]),
  (0xFD71, ["\u0637\u0645\u062d", "\u0637\u0645\u062d", "\u0637\u0645\u0645"]),
  (0xFD74, ["\u0637\u0645\u064a", "\u0639\u062c\u0645", "\u0639\u0645\u0645"]),
  (0xFD77, ["\u0639\u0645\u0645", "\u0639\u0645\u0649", "\u063a\u0645\u0645"]),
  (0xFD7A, ["\u063a\u0645\u064a", "\u063a\u0645\u0649", "\u0641\u062e\u0645"]),
  (0xFD7D, ["\u0641\u062e\u0645", "\u0642\u0645\u062d", "\u0642\u0645\u0645"]),
  (0xFD80, ["\u0644\u062d\u0645", "\u0644\u062d\u064a", "\u0644\u062d\u0649"]),
  (0xFD83, ["\u0644\u062c\u062c", "\u0644\u062c\u062c", "\u0644\u062e\u0645"]),
  (0xFD86, ["\u0644\u062e\u0645", "\u0644\u0645\u062d", "\u0644\u0645\u062d"]),
  (0xFD89, ["\u0645\u062d\u062c", "\u0645\u062d\u0645", "\u0645\u062d\u064a"]),
  (0xFD8C, ["\u0645\u062c\u062d", "\u0645\u062c\u0645", "\u0645\u062e\u062c"]),
  (0xFD8F, ["\u0645\u062e\u0645"]),
  (0xFD92, ["\u0645\u062c\u062e", "\u0647\u0645\u062c", "\u0647\u0645\u0645"]),
  (0xFD95, ["\u0646\u062d\u0645", "\u0646\u062d\u0649", "\u0646\u062c\u0645"]),
  (0xFD98, ["\u0646\u062c\u0645", "\u0646\u062c\u0649", "\u0646\u0645\u064a"]),
  (0xFD9B, ["\u0646\u0645\u0649", "\u064a\u0645\u0645", "\u064a\u0645\u0645"]),
  (0xFD9E, ["\u0628\u062e\u064a", "\u062a\u062c\u064a", "\u062a\u062c\u0649"]),
  (0xFDA1, ["\u062a\u062e\u064a", "\u062a\u062e\u0649", "\u062a\u0645\u064a"]),
  (0xFDA4, ["\u062a\u0645\u0649", "\u062c\u0645\u064a", "\u062c\u062d\u0649"]),
  (0xFDA7, ["\u062c\u0645\u0649", "\u0633\u062e\u0649", "\u0635\u062d\u064a"]),
  (0xFDAA, ["\u0634\u062d\u064a", "\u0636\u062d\u064a", "\u0644\u062c\u064a"]),
  (0xFDAD, ["\u0644\u0645\u064a", "\u064a\u062d\u064a", "\u064a\u062c\u064a"]),
  (0xFDB0, ["\u064a\u0645\u064a", "\u0645\u0645\u064a", "\u0642\u0645\u064a"]),
  (0xFDB3, ["\u0646\u062d\u064a", "\u0642\u0645\u062d", "\u0644\u062d\u0645"]),
  (0xFDB6, ["\u0639\u0645\u064a", "\u0643\u0645\u064a", "\u0646\u062c\u062d"]),
  (0xFDB9, ["\u0645\u062e\u064a", "\u0644\u062c\u0645", "\u0643\u0645\u0645"]),
  (0xFDBC, ["\u0644\u062c\u0645", "\u0646\u062c\u062d", "\u062c\u062d\u064a"]),
  (0xFDBF, ["\u062d\u062c\u064a", "\u0645\u062c\u064a", "\u0641\u0645\u064a"]),
  (0xFDC2, ["\u0628\u062d\u064a", "\u0643\u0645\u0645", "\u0639\u062c\u0645"]),
  (0xFDC5, ["\u0635\u0645\u0645", "\u0633\u062e\u064a", "\u0646\u062c\u064a"]),
  (0xFDF0, ["\u0635\u0644\u06d2", "\u0642\u0644\u06d2", "\u0627\u0644\u0644\u0647"]),
  (0xFDF3, ["\u0627\u0643\u0628\u0631", "\u0645\u062d\u0645\u062f", "\u0635\u0644\u0639\u0645"]),
  (0xFDF6, ["\u0631\u0633\u0648\u0644", "\u0639\u0644\u064a\u0647", "\u0648\u0633\u0644\u0645"]),
  (0xFDF9, ["\u0635\u0644\u0649"]),
  (0xFDFA, ["\u0635\u0644\u0649 \u0627\u0644\u0644\u0647 " ++
    "\u0639\u0644\u064a\u0647 \u0648\u0633\u0644\u0645"]),
  (0xFDFB, ["\u062c\u0644 \u062c\u0644\u0627\u0644\u0647", "\u0631\u06cc\u0627\u0644"]),
  (0xFE49, [" \u0305", " \u0305", " \u0305", " \u0305"]),
  (0xFE70, [" \u064b", "\u0640\u064b", " \u064c"]), (0xFE74, [" \u064d"]),
  (0xFE76, [" \u064e", "\u0640\u064e", " \u064f", "\u0640\u064f", " \u0650", "\u0640\u0650"]),
  (0xFE7C, [" \u0651", "\u0640\u0651", " \u0652", "\u0640\u0652"]),
  (0xFEF5, ["\u0644\u0622", "\u0644\u0622", "\u0644\u0623", "\u0644\u0623", "\u0644\u0625"]),
  (0xFEFA, ["\u0644\u0625", "\u0644\u0627", "\u0644\u0627"]), (0xFFE3, [" \u0304"]),
  (0x1D15E, ["𝅗𝅥", "𝅘𝅥", "𝅘𝅥𝅮", "𝅘𝅥𝅯", "𝅘𝅥𝅰", "𝅘𝅥𝅱", "𝅘𝅥𝅲"]),
  (0x1D1BB, ["𝆹𝅥", "𝆺𝅥", "𝆹𝅥𝅮", "𝆺𝅥𝅮", "𝆹𝅥𝅯", "𝆺𝅥𝅯"]),
  (0x1F101, ["0,", "1,", "2,", "3,", "4,", "5,", "6,", "7,", "8,", "9,"]),
  (0x1F110, ["(a)", "(b)", "(c)", "(d)", "(e)", "(f)", "(g)", "(h)", "(i)", "(j)", "(k)", "(l)"]),
  (0x1F11C, ["(m)", "(n)", "(o)", "(p)", "(q)", "(r)", "(s)", "(t)", "(u)", "(v)", "(w)", "(x)"]),
  (0x1F128, ["(y)", "(z)", "〔s〕"]), (0x1F12D, ["cd", "wz"]),
  (0x1F14A, ["hv", "mv", "sd", "ss", "ppv", "wc"]), (0x1F16A, ["mc", "md", "mr"]),
  (0x1F190, ["dj"]), (0x1F200, ["ほか", "ココ"]),
  (0x1F240, ["〔本〕", "〔三〕", "〔二〕", "〔安〕", "〔点〕", "〔打〕", "〔盗〕", "〔勝〕", "〔敗〕"])]

/-- The one character that replaces a code point. -/
def letter? (n : Nat) : Option Char :=
  match letterRows.find? fun (first, last, step, _) =>
      first ≤ n && n ≤ last && (n - first) % step = 0 with
  | some (first, _, step, images) => images.toList[(n - first) / step]?
  | none => (Text.rangeValue? distantRanges n).map fun distance => Char.ofNat (n + distance)

/-- The characters that replace a code point, where they are more than one. -/
def sequence? (n : Nat) : Option (List Char) :=
  sequenceRows.findSome? fun (first, images) =>
    if first ≤ n then images[n - first]?.map String.toList else none

/-- What stands for a character in a name, if it may stand in one. -/
def image? (c : Char) : Option (List Char) :=
  let n := c.toNat
  if isDisallowed c then none
  else if Text.inRanges ignoredRanges n then some []
  else match letter? n with
    | some d => some [d]
    | none => some ((sequence? n).getD [c])

/-- Whether a character stands for itself in a name. -/
def isPlain (c : Char) : Bool := image? c = some [c]

end Dialogue.DomainName
