/-!
# The characters of identifiers

An identifier begins with a letter or an underscore and goes on with letters, digits, marks and
connectors, in the sense of the Unicode properties `XID_Start` and `XID_Continue`. Here stand the
runs of these properties outside ASCII: each two characters of a table are the first and the last of
one run.
-/

namespace VisualScale.Text

/-- The runs of characters that may begin an identifier. -/
def identifierStartRuns : List String :=
  [ "ªªµµººÀÖØöøˁˆˑˠˤˬˬˮˮͰʹͶͷͻͽͿͿΆΆΈΊΌΌΎΡΣϵϷҁҊԯԱՖՙՙՠֈאתׯײؠيٮٯٱۓەەۥۦۮۯۺۼۿۿܐܐܒܯݍޥޱޱߊߪߴߵߺߺࠀࠕࠚࠚࠤࠤ"
  , "ࠨࠨࡀࡘࡠࡪࡰࢇࢉࢎࢠࣉऄहऽऽॐॐक़ॡॱঀঅঌএঐওনপরললশহঽঽৎৎড়ঢ়য়ৡৰৱৼৼਅਊਏਐਓਨਪਰਲਲ਼ਵਸ਼ਸਹਖ਼ੜਫ਼ਫ਼ੲੴઅઍએઑઓનપરલળવહઽઽૐૐૠૡૹૹଅଌ"
  , "ଏଐଓନପରଲଳଵହଽଽଡ଼ଢ଼ୟୡୱୱஃஃஅஊஎஐஒகஙசஜஜஞடணதநபமஹௐௐఅఌఎఐఒనపహఽఽౘౚౝౝౠౡಀಀಅಌಎಐಒನಪಳವಹಽಽೝೞೠೡೱೲഄഌഎഐഒഺഽഽൎൎൔൖ"
  , "ൟൡൺൿඅඖකනඳරලලවෆกะาาเๆກຂຄຄຆຊຌຣລລວະາາຽຽເໄໆໆໜໟༀༀཀཇཉཬྈྌကဪဿဿၐၕၚၝၡၡၥၦၮၰၵႁႎႎႠჅჇჇჍჍაჺჼቈቊቍቐቖቘቘቚቝበኈ"
  , "ኊኍነኰኲኵኸኾዀዀዂዅወዖዘጐጒጕጘፚᎀᎏᎠᏵᏸᏽᐁᙬᙯᙿᚁᚚᚠᛪᛮᛸᜀᜑᜟᜱᝀᝑᝠᝬᝮᝰកឳៗៗៜៜᠠᡸᢀᢨᢪᢪᢰᣵᤀᤞᥐᥭᥰᥴᦀᦫᦰᧉᨀᨖᨠᩔᪧᪧᬅᬳᭅᭌᮃᮠᮮᮯᮺᯥᰀᰣ"
  , "ᱍᱏᱚᱽᲀᲈᲐᲺᲽᲿᳩᳬᳮᳳᳵᳶᳺᳺᴀᶿḀἕἘἝἠὅὈὍὐὗὙὙὛὛὝὝὟώᾀᾴᾶᾼιιῂῄῆῌῐΐῖΊῠῬῲῴῶῼⁱⁱⁿⁿₐₜℂℂℇℇℊℓℕℕ℘ℝℤℤΩΩℨℨKℹℼℿⅅⅉⅎⅎ"
  , "ⅠↈⰀⳤⳫⳮⳲⳳⴀⴥⴧⴧⴭⴭⴰⵧⵯⵯⶀⶖⶠⶦⶨⶮⶰⶶⶸⶾⷀⷆⷈⷎⷐⷖⷘⷞ々〇〡〩〱〵〸〼ぁゖゝゟァヺーヿㄅㄯㄱㆎㆠㆿㇰㇿ㐀䶿一ꒌꓐꓽꔀꘌꘐꘟꘪꘫꙀꙮꙿꚝꚠꛯꜗꜟꜢꞈꞋꟊꟐꟑꟓꟓ"
  , "ꟕꟙꟲꠁꠃꠅꠇꠊꠌꠢꡀꡳꢂꢳꣲꣷꣻꣻꣽꣾꤊꤥꤰꥆꥠꥼꦄꦲꧏꧏꧠꧤꧦꧯꧺꧾꨀꨨꩀꩂꩄꩋꩠꩶꩺꩺꩾꪯꪱꪱꪵꪶꪹꪽꫀꫀꫂꫂꫛꫝꫠꫪꫲꫴꬁꬆꬉꬎꬑꬖꬠꬦꬨꬮꬰꭚꭜꭩꭰꯢ가힣ힰퟆퟋퟻ豈舘"
  , "並龎ﬀﬆﬓﬗיִיִײַﬨשׁזּטּלּמּמּנּסּףּפּצּﮱﯓﱝﱤﴽﵐﶏﶒﷇﷰﷹﹱﹱﹳﹳﹷﹷﹹﹹﹻﹻﹽﹽﹿﻼＡＺａｚｦﾝﾠﾾￂￇￊￏￒￗￚￜ𐀀𐀋𐀍𐀦𐀨𐀺𐀼𐀽𐀿𐁍𐁐𐁝𐂀𐃺𐅀𐅴𐊀𐊜𐊠𐋐𐌀𐌟𐌭𐍊𐍐𐍵"
  , "𐎀𐎝𐎠𐏃𐏈𐏏𐏑𐏕𐐀𐒝𐒰𐓓𐓘𐓻𐔀𐔧𐔰𐕣𐕰𐕺𐕼𐖊𐖌𐖒𐖔𐖕𐖗𐖡𐖣𐖱𐖳𐖹𐖻𐖼𐘀𐜶𐝀𐝕𐝠𐝧𐞀𐞅𐞇𐞰𐞲𐞺𐠀𐠅𐠈𐠈𐠊𐠵𐠷𐠸𐠼𐠼𐠿𐡕𐡠𐡶𐢀𐢞𐣠𐣲𐣴𐣵𐤀𐤕𐤠𐤹𐦀𐦷𐦾𐦿𐨀𐨀𐨐𐨓𐨕𐨗𐨙𐨵𐩠𐩼𐪀𐪜𐫀𐫇"
  , "𐫉𐫤𐬀𐬵𐭀𐭕𐭠𐭲𐮀𐮑𐰀𐱈𐲀𐲲𐳀𐳲𐴀𐴣𐺀𐺩𐺰𐺱𐼀𐼜𐼧𐼧𐼰𐽅𐽰𐾁𐾰𐿄𐿠𐿶𑀃𑀷𑁱𑁲𑁵𑁵𑂃𑂯𑃐𑃨𑄃𑄦𑅄𑅄𑅇𑅇𑅐𑅲𑅶𑅶𑆃𑆲𑇁𑇄𑇚𑇚𑇜𑇜𑈀𑈑𑈓𑈫𑊀𑊆𑊈𑊈𑊊𑊍𑊏𑊝𑊟𑊨𑊰𑋞𑌅𑌌𑌏𑌐𑌓𑌨𑌪𑌰𑌲𑌳"
  , "𑌵𑌹𑌽𑌽𑍐𑍐𑍝𑍡𑐀𑐴𑑇𑑊𑑟𑑡𑒀𑒯𑓄𑓅𑓇𑓇𑖀𑖮𑗘𑗛𑘀𑘯𑙄𑙄𑚀𑚪𑚸𑚸𑜀𑜚𑝀𑝆𑠀𑠫𑢠𑣟𑣿𑤆𑤉𑤉𑤌𑤓𑤕𑤖𑤘𑤯𑤿𑤿𑥁𑥁𑦠𑦧𑦪𑧐𑧡𑧡𑧣𑧣𑨀𑨀𑨋𑨲𑨺𑨺𑩐𑩐𑩜𑪉𑪝𑪝𑪰𑫸𑰀𑰈𑰊𑰮𑱀𑱀𑱲𑲏𑴀𑴆𑴈𑴉"
  , "𑴋𑴰𑵆𑵆𑵠𑵥𑵧𑵨𑵪𑶉𑶘𑶘𑻠𑻲𑾰𑾰𒀀𒎙𒐀𒑮𒒀𒕃𒾐𒿰𓀀𓐮𔐀𔙆𖠀𖨸𖩀𖩞𖩰𖪾𖫐𖫭𖬀𖬯𖭀𖭃𖭣𖭷𖭽𖮏𖹀𖹿𖼀𖽊𖽐𖽐𖾓𖾟𖿠𖿡𖿣𖿣𗀀𘟷𘠀𘳕𘴀𘴈𚿰𚿳𚿵𚿻𚿽𚿾𛀀𛄢𛅐𛅒𛅤𛅧𛅰𛋻𛰀𛱪𛱰𛱼𛲀𛲈𛲐𛲙𝐀𝑔𝑖𝒜"
  , "𝒞𝒟𝒢𝒢𝒥𝒦𝒩𝒬𝒮𝒹𝒻𝒻𝒽𝓃𝓅𝔅𝔇𝔊𝔍𝔔𝔖𝔜𝔞𝔹𝔻𝔾𝕀𝕄𝕆𝕆𝕊𝕐𝕒𝚥𝚨𝛀𝛂𝛚𝛜𝛺𝛼𝜔𝜖𝜴𝜶𝝎𝝐𝝮𝝰𝞈𝞊𝞨𝞪𝟂𝟄𝟋𝼀𝼞𞄀𞄬𞄷𞄽𞅎𞅎𞊐𞊭𞋀𞋫𞟠𞟦𞟨𞟫𞟭𞟮𞟰𞟾𞠀𞣄𞤀𞥃𞥋𞥋𞸀𞸃𞸅𞸟𞸡𞸢"
  , "𞸤𞸤𞸧𞸧𞸩𞸲𞸴𞸷𞸹𞸹𞸻𞸻𞹂𞹂𞹇𞹇𞹉𞹉𞹋𞹋𞹍𞹏𞹑𞹒𞹔𞹔𞹗𞹗𞹙𞹙𞹛𞹛𞹝𞹝𞹟𞹟𞹡𞹢𞹤𞹤𞹧𞹪𞹬𞹲𞹴𞹷𞹹𞹼𞹾𞹾𞺀𞺉𞺋𞺛𞺡𞺣𞺥𞺩𞺫𞺻𠀀𪛟𪜀𫜸𫝀𫠝𫠠𬺡𬺰𮯠丽𪘀𰀀𱍊" ]

/-- The runs of characters that may stand in an identifier after its first character. -/
def identifierPartRuns : List String :=
  [ "ªªµµ··ººÀÖØöøˁˆˑˠˤˬˬˮˮ̀ʹͶͷͻͽͿͿΆΊΌΌΎΡΣϵϷҁ҃҇ҊԯԱՖՙՙՠֈׇׇֽֿֿׁׂ֑ׅׄאתׯײؚؐؠ٩ٮۓە۪ۜ۟ۨۼۿۿܐ݊ݍޱ߀ߵߺߺ߽߽"
  , "ࠀ࠭ࡀ࡛ࡠࡪࡰࢇࢉࢎࣣ࢘࣡ॣ०९ॱঃঅঌএঐওনপরললশহ়ৄেৈোৎৗৗড়ঢ়য়ৣ০ৱৼৼ৾৾ਁਃਅਊਏਐਓਨਪਰਲਲ਼ਵਸ਼ਸਹ਼਼ਾੂੇੈੋ੍ੑੑਖ਼ੜਫ਼ਫ਼੦ੵઁઃઅઍએઑઓન"
  , "પરલળવહ઼ૅેૉો્ૐૐૠૣ૦૯ૹ૿ଁଃଅଌଏଐଓନପରଲଳଵହ଼ୄେୈୋ୍୕ୗଡ଼ଢ଼ୟୣ୦୯ୱୱஂஃஅஊஎஐஒகஙசஜஜஞடணதநபமஹாூெைொ்ௐௐௗௗ௦௯ఀఌఎఐఒన"
  , "పహ఼ౄెైొ్ౕౖౘౚౝౝౠౣ౦౯ಀಃಅಌಎಐಒನಪಳವಹ಼ೄೆೈೊ್ೕೖೝೞೠೣ೦೯ೱೲഀഌഎഐഒൄെൈൊൎൔൗൟൣ൦൯ൺൿඁඃඅඖකනඳරලලවෆ්්ාුූූෘෟ෦෯ෲෳ"
  , "กฺเ๎๐๙ກຂຄຄຆຊຌຣລລວຽເໄໆໆ່ໍ໐໙ໜໟༀༀ༘༙༠༩༹༹༵༵༷༷༾ཇཉཬ྄ཱ྆ྗྙྼ࿆࿆က၉ၐႝႠჅჇჇჍჍაჺჼቈቊቍቐቖቘቘቚቝበኈኊኍነኰኲኵኸኾዀዀዂዅ"
  , "ወዖዘጐጒጕጘፚ፝፟፩፱ᎀᎏᎠᏵᏸᏽᐁᙬᙯᙿᚁᚚᚠᛪᛮᛸᜀ᜕ᜟ᜴ᝀᝓᝠᝬᝮᝰᝲᝳក៓ៗៗៜ៝០៩᠋᠍᠏᠙ᠠᡸᢀᢪᢰᣵᤀᤞᤠᤫᤰ᤻᥆ᥭᥰᥴᦀᦫᦰᧉ᧐᧚ᨀᨛᨠᩞ᩠᩿᩼᪉᪐᪙ᪧᪧ᪽᪰"
  , "ᪿᫎᬀᭌ᭐᭙᭫᭳ᮀ᯳ᰀ᰷᱀᱉ᱍᱽᲀᲈᲐᲺᲽᲿ᳔᳐᳒ᳺᴀἕἘἝἠὅὈὍὐὗὙὙὛὛὝὝὟώᾀᾴᾶᾼιιῂῄῆῌῐΐῖΊῠῬῲῴῶῼ‿⁀⁔⁔ⁱⁱⁿⁿₐₜ⃥⃐⃜⃡⃡⃰ℂℂℇℇℊℓℕℕ"
  , "℘ℝℤℤΩΩℨℨKℹℼℿⅅⅉⅎⅎⅠↈⰀⳤⳫⳳⴀⴥⴧⴧⴭⴭⴰⵧⵯⵯ⵿ⶖⶠⶦⶨⶮⶰⶶⶸⶾⷀⷆⷈⷎⷐⷖⷘⷞⷠⷿ々〇〡〯〱〵〸〼ぁゖ゙゚ゝゟァヺーヿㄅㄯㄱㆎㆠㆿㇰㇿ㐀䶿一ꒌꓐꓽꔀꘌꘐꘫ"
  , "Ꙁ꙯ꙴ꙽ꙿ꛱ꜗꜟꜢꞈꞋꟊꟐꟑꟓꟓꟕꟙꟲꠧ꠬꠬ꡀꡳꢀꣅ꣐꣙꣠ꣷꣻꣻꣽ꤭ꤰ꥓ꥠꥼꦀ꧀ꧏ꧙ꧠꧾꨀꨶꩀꩍ꩐꩙ꩠꩶꩺꫂꫛꫝꫠꫯꫲ꫶ꬁꬆꬉꬎꬑꬖꬠꬦꬨꬮꬰꭚꭜꭩꭰꯪ꯬꯭꯰꯹가힣ힰퟆퟋퟻ豈舘"
  , "並龎ﬀﬆﬓﬗיִﬨשׁזּטּלּמּמּנּסּףּפּצּﮱﯓﱝﱤﴽﵐﶏﶒﷇﷰﷹ︀️︠︯︳︴﹍﹏ﹱﹱﹳﹳﹷﹷﹹﹹﹻﹻﹽﹽﹿﻼ０９ＡＺ＿＿ａｚｦﾾￂￇￊￏￒￗￚￜ𐀀𐀋𐀍𐀦𐀨𐀺𐀼𐀽𐀿𐁍𐁐𐁝𐂀𐃺𐅀𐅴𐇽𐇽"
  , "𐊀𐊜𐊠𐋐𐋠𐋠𐌀𐌟𐌭𐍊𐍐𐍺𐎀𐎝𐎠𐏃𐏈𐏏𐏑𐏕𐐀𐒝𐒠𐒩𐒰𐓓𐓘𐓻𐔀𐔧𐔰𐕣𐕰𐕺𐕼𐖊𐖌𐖒𐖔𐖕𐖗𐖡𐖣𐖱𐖳𐖹𐖻𐖼𐘀𐜶𐝀𐝕𐝠𐝧𐞀𐞅𐞇𐞰𐞲𐞺𐠀𐠅𐠈𐠈𐠊𐠵𐠷𐠸𐠼𐠼𐠿𐡕𐡠𐡶𐢀𐢞𐣠𐣲𐣴𐣵𐤀𐤕𐤠𐤹𐦀𐦷𐦾𐦿"
  , "𐨀𐨃𐨅𐨆𐨌𐨓𐨕𐨗𐨙𐨵𐨿𐨿𐨺𐨸𐩠𐩼𐪀𐪜𐫀𐫇𐫉𐫦𐬀𐬵𐭀𐭕𐭠𐭲𐮀𐮑𐰀𐱈𐲀𐲲𐳀𐳲𐴀𐴧𐴰𐴹𐺀𐺩𐺫𐺬𐺰𐺱𐼀𐼜𐼧𐼧𐼰𐽐𐽰𐾅𐾰𐿄𐿠𐿶𑀀𑁆𑁦𑁵𑂺𑁿𑃂𑃂𑃐𑃨𑃰𑃹𑄴𑄀𑄶𑄿𑅄𑅇𑅐𑅳𑅶𑅶𑆀𑇄𑇉𑇌𑇎𑇚𑇜𑇜"
  , "𑈀𑈑𑈓𑈷𑈾𑈾𑊀𑊆𑊈𑊈𑊊𑊍𑊏𑊝𑊟𑊨𑊰𑋪𑋰𑋹𑌀𑌃𑌅𑌌𑌏𑌐𑌓𑌨𑌪𑌰𑌲𑌳𑌵𑌹𑌻𑍄𑍇𑍈𑍋𑍍𑍐𑍐𑍗𑍗𑍝𑍣𑍦𑍬𑍰𑍴𑐀𑑊𑑐𑑙𑑞𑑡𑒀𑓅𑓇𑓇𑓐𑓙𑖀𑖵𑖸𑗀𑗘𑗝𑘀𑙀𑙄𑙄𑙐𑙙𑚀𑚸𑛀𑛉𑜀𑜚𑜝𑜫𑜰𑜹𑝀𑝆𑠀𑠺"
  , "𑢠𑣩𑣿𑤆𑤉𑤉𑤌𑤓𑤕𑤖𑤘𑤵𑤷𑤸𑤻𑥃𑥐𑥙𑦠𑦧𑦪𑧗𑧚𑧡𑧣𑧤𑨀𑨾𑩇𑩇𑩐𑪙𑪝𑪝𑪰𑫸𑰀𑰈𑰊𑰶𑰸𑱀𑱐𑱙𑱲𑲏𑲒𑲧𑲩𑲶𑴀𑴆𑴈𑴉𑴋𑴶𑴺𑴺𑴼𑴽𑴿𑵇𑵐𑵙𑵠𑵥𑵧𑵨𑵪𑶎𑶐𑶑𑶓𑶘𑶠𑶩𑻠𑻶𑾰𑾰𒀀𒎙𒐀𒑮𒒀𒕃𒾐𒿰"
  , "𓀀𓐮𔐀𔙆𖠀𖨸𖩀𖩞𖩠𖩩𖩰𖪾𖫀𖫉𖫐𖫭𖫰𖫴𖬀𖬶𖭀𖭃𖭐𖭙𖭣𖭷𖭽𖮏𖹀𖹿𖼀𖽊𖽏𖾇𖾏𖾟𖿠𖿡𖿣𖿤𖿰𖿱𗀀𘟷𘠀𘳕𘴀𘴈𚿰𚿳𚿵𚿻𚿽𚿾𛀀𛄢𛅐𛅒𛅤𛅧𛅰𛋻𛰀𛱪𛱰𛱼𛲀𛲈𛲐𛲙𛲝𛲞𜼀𜼭𜼰𜽆𝅩𝅥𝅲𝅻𝆂𝆋𝅭𝆅𝆪𝆭𝉂𝉄"
  , "𝐀𝑔𝑖𝒜𝒞𝒟𝒢𝒢𝒥𝒦𝒩𝒬𝒮𝒹𝒻𝒻𝒽𝓃𝓅𝔅𝔇𝔊𝔍𝔔𝔖𝔜𝔞𝔹𝔻𝔾𝕀𝕄𝕆𝕆𝕊𝕐𝕒𝚥𝚨𝛀𝛂𝛚𝛜𝛺𝛼𝜔𝜖𝜴𝜶𝝎𝝐𝝮𝝰𝞈𝞊𝞨𝞪𝟂𝟄𝟋𝟎𝟿𝨀𝨶𝨻𝩬𝩵𝩵𝪄𝪄𝪛𝪟𝪡𝪯𝼀𝼞𞀀𞀆𞀈𞀘𞀛𞀡𞀣𞀤𞀦𞀪𞄀𞄬"
  , "𞄰𞄽𞅀𞅉𞅎𞅎𞊐𞊮𞋀𞋹𞟠𞟦𞟨𞟫𞟭𞟮𞟰𞟾𞠀𞣄𞣐𞣖𞤀𞥋𞥐𞥙𞸀𞸃𞸅𞸟𞸡𞸢𞸤𞸤𞸧𞸧𞸩𞸲𞸴𞸷𞸹𞸹𞸻𞸻𞹂𞹂𞹇𞹇𞹉𞹉𞹋𞹋𞹍𞹏𞹑𞹒𞹔𞹔𞹗𞹗𞹙𞹙𞹛𞹛𞹝𞹝𞹟𞹟𞹡𞹢𞹤𞹤𞹧𞹪𞹬𞹲𞹴𞹷𞹹𞹼𞹾𞹾𞺀𞺉𞺋𞺛𞺡𞺣"
  , "𞺥𞺩𞺫𞺻🯰🯹𠀀𪛟𪜀𫜸𫝀𫠝𫠠𬺡𬺰𮯠丽𪘀𰀀𱍊󠄀󠇯" ]

end VisualScale.Text
