/-!
# The names of characters

The names and other names of the characters of Unicode 14, without those that are made up from a
number or from the letters of a syllable.
-/

namespace CodeAtlas.Text

/-- The names in order, in lower case. In front of each, capital letters say how many characters at
the end of the one before it does not share: none for an A, and 25 and more for a Z. -/
def nameList : String :=
"AabacusFc currentIcordionFunt ofIkAnowledgeJtivate arabic form shapingTsymmetric swapping
ZAute accentFngleKddressed to the subjectWhesive bandageOi shaktiIlam alif lengthener
Pcapital letter alifEbaBheDchiDdaaliEhaDeBfaCgaBbeDhaCiBjiimEkafChaCpoDlaamEmiimEnhaCunCyaDoBpe
CqaafEraCshaCinnyiiyheKtuCuBvaCwawDyaBheDzalRonsonant modifierSdigit eightFfiveDourEnineEoneDseven
EixDthreeEwoDzeroKgeminate consonant modifierUion markPhamzaFinitial exclamation markQquestion mark
Vnasalization markQuktaFsmall letter alifEbaBheDchiDdaaliEhaDeBfaCgaBbeDhaCiBjiimEkafChaCpoDlaam
EmiimEnhaCunCyaDoBpeCqaafEraCshaCinnyiiyheKtuCuBvaCwawDyaBheDzalQvowel lengthenerUmetos
Eission ticketsPultEegean check markKdry measure first subunitZAliquid measure first subunit
ZDmeasure second subunitOthird subunitVnumber eightA hundredHthousandJyA thousandPfiftyA thousand
MveA hundredHthousandMortyA thousandMurA hundredHthousandNnineA hundredHthousandJtyA thousandPone
A hundredHthousandMsevenA hundredHthousandJtyA thousandPixA hundredHthousandJtyA thousandOten
A thousandLhirtyA thousandNreeA hundredHthousandNwentyA thousandNoA hundredHthousand
Tweight base unitJfirst subunitMourth subunitOsecond subunitOthird subunitTord separator dotDline
Yrial tramwayNfghani signLhom consonant sign medial laBigating raLraYdigit eightFfiveDourEnineEone
DsevenEixDthreeEwoDzeroKletter aAlternate baCgaCtaMbaBhaDcaBhaDdaBdaBhaDhaDgaBhaDhaCjaBhaDkaBhaDla
BlaDmaCnaBgaCnaCyaDpaBhaDraCsaCtaBhaCtaBhaLnumber tenCwentyNsign killerGrulaiFsectionGmall section
Rymbol viJvowel sign aAaBiBmBwCeBiAiCoBuAuRirplaneA arrivingIdepartureRktieselskabLlarm clock
Jchemical symbol for airClembicFkaliA-2GumDmalgamGntimony oreLqua regiaA-2HvitaeA-2IfortisJrsenic
GshesEuripigmentLbath of maryEvapoursOismuth oreKlack sulfurLoraxA-2B3GrickFcaduceusGlxCput mortuum
MinnabarHopper antimoniateLoreJrocus of copperA-2IironMucibleA-2B3B4B5Kday-nightIissolveA-2Htill
HearthFfireEgoldDumDhalf dramEounceJorse dungIurEiron oreA-2G-copper orePlead oreHodestone
JmarcasiteIercury sublimateA-2B3SonthFnightDtreFoilDphilosophers sulfurSot ashesHwderAed brick
NrecipitateKurifyEtrefactionMquick limeHntessenceMrealgarA-2HgulusA of antimonyA-2KironI-2B3B4Htort
Fock saltA-2Lsal-ammoniacJtA of antimonyIcopper antimoniateZAcepter of joveOilverFoapDpirit
Ftarred tridentNratum super stratumA-2Wublimate of antimonyIcopperGsalt of antimonyIcopperTionJlfur
GtartarA-2Hin oreEctureHridentGuttyFurineFverdigrisIinegarA of antimonyM-2B3HtriolA-2JwaterDx
Xef symbolImbicErtDien monsterLl around-profileOequal toKmAost equal or equal toLto
A with circumflex accentZLternate one-way left way trafficZBive key symbolVmalgamation or coproduct
XbulanceHerican footballPpersandGhoraGnatolian hieroglyph a001B2B3B4B5B6B7B8B9C10AaC1B2B3B4B5B6B7B8
B9C20B1B2B3B4B5B6AaC7B8B9C30B1B2B3B4B5B6B7B8B9AaD40B1AaC2B3B4B5AaC6AaBbC7B8B9C50B1B2B3B4B5B6B7B8B9
C60B1B2B3B4B5B6AaBbBcC7B8B9C70B1B2B3B4B5B6B7B8B9C80B1B2B3B4B5B6B7B8B9C90B1B2B3B4B5B6B7AaC8AaC9D100
AaC1AaC2AaC3B4AaBbBcC5AaBbC6B7AaBbBcC8B9C10AaBbC1B2B3B4B5AaC6B7B8B9C20B1B2B3B4B5AaC6B7B8B9C30B1B2B3
B4B5AaC6B7B8B9C40B1B2B3B4B5B6B7B8B9C50B1B2B3B4B5B6B7B8B9C60B1B2B3B4B5B6B7B8B9C70B1B2B3B4B5B6B7B8B9
C80B1B2B3B4B5B6B7B8B9C90B1B2B3B4B5B6B7B8B9D200B1B2AaBbC3B4B5B6B7AaC8B9AaD10B1B2B3B4B5AaC6AaC7B8B9
C20B1B2B3B4B5B6B7AaC8B9C30B1B2B3B4B5B6B7B8B9C40B1B2B3B4B5B6B7B8B9C50B1B2B3B4B5B6B7B8B9C60B1B2B3B4B5
B6B7AaC8B9C70B1B2B3B4B5B6B7B8B9C80B1B2B3B4B5B6B7B8B9AaD90B1B2B3B4AaC5B6B7B8B9AaE300B1B2B3B4B5B6B7B8
B9AaD10B1B2B3B4B5B6B7B8B9C20B1B2B3B4B5B6B7B8B9AaD30B1B2aBbBcC3B4B5B6AaBbBcC7B8B9C40B1B2B3B4B5B6B7B8
B9C50B1B2B3B4B5B6B7B8B9AaD60B1B2B3B4AaC5B6B7B8AaC9C70B1AaC2B3B4B5B6B7B8B9C80B1AaC2B3 ra or riJaC4B5
B6AaC7B8B9C90B1B2B3 eightH4B5B6B7B8B9D400B1B2B3B4B5B6B7B8B9C10 begin logogram mark
Ua end logogram markU1B2B3B4B5B6B7B8B9C20B1B2B3B4B5B6B7B8B9C30B1B2B3B4B5B6B7B8B9C40B1B2B3B4B5B6B7B8
B9C50AaC1B2B3B4B5B6B7AaC8B9C60B1B2B3B4B5B6B7B8B9C70B1B2B3B4B5B6B7B8B9C80B1B2B3B4B5B6B7B8B9C90B1B2B3
B4B5B6B7D501B2B3B4B5B6B7B8B9C10B1B2B3B4B5B6B7B8B9C20B1B2B3B4B5B6B7B8B9C30Umical heartOchor
Ed with dotKger symbolJleA with s insideIunderbarQry faceHstrom signKuished faceMkhCt
Aenna with barsOiclockwise closed circle arrowSontour integral
Qdownwards and upwards open circle arrowsZPgapped circle arrowTintegrationLopen circle arrow
Rtop semicircle arrowTriangle-headed bottom u-shaped arrowVleft u-shaped arrowTopen circle arrow
Rright u-shaped arrowUtop u-shaped arrowZWpcBl functional symbol alphaA underbarObackslash bar
Ncircle backslashJdiaeresisJjotDstarCileFunderbarOomma barJdel diaeresisJstileFtildeGta stile
FunderbarNiamond underbarPown caret tildeLshoe stileKtack jotDunderbarOwards vaneOepsilon underbar
Qgreater-than diaeresisWi-beamFotaA underbarNjot diaeresisJunderbarMleft shoe stileLwards vane
OomegaA underbarOquadA backslashJcircleFolonFdelAtaEiamondFvideFown caretGwards arrowPequal
Fgreater-thanMjotDleftwards arrowNss-thanJnot equalJquestionIrightwards arrowQslashFup caret
Gwards arrowQote quadEunderbarOrhoCightwards vanePsemicolon underbarRlash barIquish quad
Ktar diaeresisMile tildeLtilde diaeresisPup caret tildeLshoe jotItack diaeresisJjotDoverbar
Nwards vaneMzildeZAollonEstropheIplication program commandYroaches the limit
Pximately but not actually equal toZAequal or equal toLtoA or the image ofZMquarius
Hrabic baseline round dotScommaEurly dammaAtanIfathaAtanIkasraAtanOdammaA isolated formNmedial form
Lwith dotJtanA isolated formUte separatorNecimal separatorQisputed end of ayah
Touble right arrowhead aboveA with dotZGd maddaNempty centre high stopJlow stopUnd of ayah
Etext markQfathaA isolated formNmedial formLwith dot aboveJringEtwo dotsOtanA isolated form
Vive pointed starQootnote markerOull stopJhalf madda over maddaTmza aboveFbelowLinverted damma
OkasraA isolated formNmedial formLwith dot belowPtanA isolated formWlarge circle below
Mround dot aboveFbelowFinside circle belowZJeft arrowhead aboveFbelowStter aeBfrican fehDnoonEqaf
A with three dots aboveZHinA final formKinitial formLsolated formNmedial formLwith three dots above
FbelowFpointing downwards aboveZJwo dots aboveFvertically aboveZIlefA final formKisolated form
NmaksuraA final formKisolated formVwaslaA final formKisolated formSith attached bottom right kasra
A and dot aboveJleft ringZHfathaFkasraFleft hamzaFround dotOright hamzaFround dotOound dot above
FbelowPtop right fathaA and dot aboveJleft ringZNdot aboveJextended arabic-indic digit three above
Kwo aboveZMhamza aboveA final formKisolated formTbelowA final formKisolated form
ZAleft middle strokeSmadda aboveA final formKisolated formZAright middle strokeA and dot above
Jleft ringZIwavy hamza aboveFbelowZBbeehA final formKinitial formLsolated formNmedial formOh
A final formKinitial formLsolated formNmedial formLwith dot below and three dots aboveZFhamza above
Linverted small v belowWsmall meem aboveKvA belowNthree dots horizontally below
Spointing upwards belowA and two dots aboveZZBwo dots below and dot aboveZJehA final form
Kinitial formLsolated formNmedial formRdadA final formKinitial formLsolated formNmedial form
Lwith dot belowQhalA final formKisolated formRlA final formKisolated formNwith dot below
A and small tahXfour dots abovePinverted small v belowNvKringEthree dots above downwardsPbelow
Pwo dots vertically below and small tahZWdahalA final formKisolated formRlA final form
Kisolated formRotless behDfehDqafKulA final formKisolated formQyehA final formKinitial form
Lsolated formNmedial formQeA final formKinitial formLsolated formNmedial formNfarsi yehA final form
Kinitial formLsolated formNmedial formLwith extended arabic-indic digit four belowKthree above
Kwo aboveZMinverted vKthree dots abovePwo dots aboveZDehA final formKinitial formLsolated form
Nmedial formLwith dot belowA and three dots aboveZBmoved belowPthree dots below
Fpointing upwards belowZHwo dots belowXgafA final formKinitial formLsolated formNmedial form
Lwith inverted strokePringEthree dots abovePwo dots belowWhainA final formKinitial form
Lsolated formNmedial formLwith dot belowJthree dots aboveZBrafDuehA final formKinitial form
Lsolated formNmedial formQhahA final formKinitial formLsolated formNmedial form
Lwith extended arabic-indic digit four belowZNhamza aboveLinverted small v below
Wsmall arabic letter tah aboveEnd two dotsMbelowZEthree dots aboveFpointing upwards below
ZHwo dots aboveFvertical aboveZFmzaA isolated formSehA doachashmeeA final formKinitial form
Lsolated formNmedial formXfinal formKgoalA final formKinitial formLsolated formNmedial form
Lwith hamza aboveVinitial formLsolated formNmedial formLwith inverted vKyeh aboveA final form
Kisolated formZGigh hamzaA alefEwawDyehOjeemA final formKinitial formLsolated formNmedial form
Lwith three dots aboveFbelowPwo dots aboveWhA final formKisolated formRkafA final formKinitial form
Lsolated formNmedial formLwith dot aboveFbelowJringEthree dots belowPwo dots aboveVshmiri yehLeheh
A final formKinitial formLsolated formNmedial formLwith dot aboveJsmall vHthree dots aboveFbelow
Fpointing upwards belowZHwo dots aboveFvertically belowZKhahA final formKinitial formLsolated form
Nmedial formPirghiz oeA final formKisolated formQyuA final formKisolated formYlamA final form
Kinitial formLsolated formNmedial formLwith barDdot aboveHuble barKsmall arabic letter tah aboveXv
Hthree dots aboveFbelowYow alefImarkDeemA final formKinitial formLsolated formNmedial form
Lwith dot aboveFbelowJthree dots aboveZBngA final formKinitial formLsolated formNmedial formMoeh
A final formKinitial formLsolated formNmedial formQoonA final formKghunnaA final formKisolated form
Uinitial formLsolated formNmedial formLwith dot belowJinverted small vQringEsmall tahDv
Hthree dots abovePwo dots belowXyehA final formKinitial formLsolated formNmedial formQoe
A final formKisolated formQpehA final formKinitial formLsolated formNmedial form
Lwith small meem aboveKvNehA final formKinitial formLsolated formNmedial formRqafA final form
Kinitial formLsolated formNmedial formLwith dot aboveFbelowA and no dots aboveZCthree dots above
ZArehA final formKisolated formNwith dot belowA and dot aboveXfour dots abovePhamza above
Linverted vKloopEringEsmall arabic letter tah and two dotsZFnoon aboveKvA belowMtroke
Gtwo dots aboveFvertically aboveZInoonA final formKinitial formLsolated formNmedial form
Qohingya yehLrehA final formKisolated formSsadA final formKinitial formLsolated formNmedial form
Lwith three dots aboveFbelowPwo dots belowWeenA final formKinitial formLsolated formNmedial form
Lwith dot below and dot aboveXextended arabic-indic digit four aboveZNfour dots abovePinverted v
Ksmall arabic letter tah and two dotsZLthree dots belowA and three dots above
ZLwo dots vertically aboveZJheenA final formKinitial formLsolated formNmedial formLwith dot below
Ttraight wawLuperscript alefPwash kafJtahA final formKinitial formLsolated formNmedial form
Lwith dot belowJthree dots aboveFbelowPwo dots aboveWchehA final formKinitial formLsolated form
Nmedial formLwith dot aboveJsmall vNehA final formKinitial formLsolated formNmedial formSeh
A final formKinitial formLsolated formNmarbutaA final formKgoalEisolated formUedial formLwith ring
Esmall teh aboveJvHthree dots above downwardsZHehA final formKinitial formLsolated formNmedial form
QhalA final formKisolated formQehA final formKinitial formLsolated formNmedial formOin yehHteh
A final formKinitial formLsolated formNmedial formLwith small vNehA final formKinitial form
Lsolated formNmedial formSuA final formKisolated formNwith hamza aboveA isolated form
ZGighur kazakh kirghiz alef maksura initial formMmedial formZVveA final formKisolated formOh
A final formKinitial formLsolated formNmedial formPwawA final formKisolated formNwith dot above
FwithinKextended arabic-indic digit three aboveKwo aboveZMhamza aboveA final formKisolated form
ZAringEtwo dots aboveXyehA barreeA final formKisolated form
Nwith extended arabic-indic digit three aboveKwo aboveZMhamza aboveA final formKisolated form
ZMfinal formKinitial formLsolated formNmedial formLwith hamza aboveA final formKinitial form
Lsolated formNmedial formXsmall vHtailDhree dots belowPwo dots below and dot aboveJhamza above
Lsmall noon aboveZSuA final formKisolated formQzahA final formKinitial formLsolated form
Nmedial formNinA final formKisolated formNwith inverted v above
ZHigature ain with alef maksura final formKisolated formZBjeem initial formLsolated form
Nwith meem final formKinitial formZCmeem initial formLsolated formNwith alef maksura final form
Xmeem final formKinitial formRyeh final formYyeh final formKisolated formZAkbar isolated form
Slayhaa as-salaamMe isolated formPi as-salaamBtu was-salaamWm as-salaamKaa as-salaam
Ref maksura with superscript alef final formKisolated formZSwith fathatan final formKisolated form
ZFlah isolated formSzza wa jallMbeh with alef maksura final formKisolated formZBhah initial form
Lsolated formNwith yeh final formWeh initial formMmedial formPjeem initial formLsolated form
Skhah initial formLsolated formNwith yeh final formYmeem final formKinitial formLsolated form
Nmedial formQnoon final formPreh final formOyeh final formKisolated formRzain final form
Xismillah ar-rahman ar-raheemZEdad with alef maksura final formKisolated formZBhah initial form
Lsolated formNwith alef maksura final formXyeh final formXjeem initial formLsolated form
Skhah initial formLsolated formNwith meem final formKinitial formZCmeem initial formLsolated form
Sreh final formKisolated formRyeh final formKisolated formZBfeh with alef maksura final form
Kisolated formZBhah initial formLsolated formRjeem initial formLsolated formSkhah initial form
Lsolated formNwith meem final formKinitial formZCmeem initial formLsolated formNwith yeh final form
Yyeh final formKisolated formZBghain with alef maksura final formKisolated formZBjeem initial form
Lsolated formSmeem initial formLsolated formNwith alef maksura final formXmeem final form
Pyeh final formYyeh final formKisolated formZDhah with alef maksura final formKisolated form
ZBjeem initial formLsolated formNwith yeh final formYmeem initial formLsolated form
Nwith alef maksura final formXyeh final formYyeh final formKisolated form
ZAeh with alef maksura isolated formZBjeem initial formLsolated formSmeem initial formLsolated form
Nwith jeem initial formRmeem initial formZCsuperscript alef initial formZEyeh isolated form
ZBjallajalalouhouOeem with alef maksura final formKisolated formZBhah initial formLsolated form
Nwith alef maksura final formXyeh final formXmeem initial formLsolated form
Nwith alef maksura final formXhah final formKinitial formQyeh final formYyeh final form
Kisolated formZCkaf with alef final formKisolated formNmaksura final formKisolated form
ZBhah initial formLsolated formRjeem initial formLsolated formSkhah initial formLsolated form
Slam final formKinitial formLsolated formNmedial formPmeem final formKinitial formLsolated form
Nmedial formLwith meem final formKinitial formRyeh final formYyeh final formKisolated form
ZAhah with alef maksura final formKisolated formZBhah isolated formRjeem initial formLsolated form
Smeem initial formLsolated formSyeh final formKisolated formZClam with alef final form
Kisolated formNmaksura final formKisolated formVwith hamza above final formKisolated form
Tbelow final formKisolated formZAmadda above final formKisolated formZKhah initial form
Lsolated formNwith alef maksura final formXmeem final formKinitial formRyeh final form
Weh initial formQjeem initial formLsolated formNwith jeem final formKinitial formRmeem final form
Kinitial formRyeh final formYkhah initial formLsolated formNwith meem final formKinitial form
ZCmeem final formKinitial formLsolated formNmedial formLwith hah final formKinitial form
Qyeh final formYyeh final formKisolated formZBmeem with alef final formKmaksura isolated form
ZBhah initial formLsolated formNwith jeem initial formRmeem initial formRyeh final form
Xjeem initial formLsolated formNwith hah initial formQkhah initial formRmeem initial form
Ryeh final formYkhah initial formLsolated formNwith jeem initial formRmeem initial form
Ryeh final formYmeem final formKinitial formLsolated formNwith yeh final formYyeh isolated form
ZBohammad isolated formWnoon with alef maksura final formKisolated formZBhah initial form
Lsolated formNwith alef maksura final formXmeem initial formRyeh final formWeh initial form
Mmedial formPjeem initial formLsolated formNwith alef maksura final formXhah final form
Kinitial formQmeem final formKinitial formRyeh final formYkhah initial formLsolated form
Smeem final formKinitial formLsolated formNmedial formLwith alef maksura final formXyeh final form
Ynoon final formPreh final formOyeh final formKisolated formRzain final form
ZAqaf with alef maksura final formKisolated formZBhah initial formLsolated formRmeem initial form
Lsolated formNwith hah final formKinitial formQmeem final formPyeh final formYyeh final form
Kisolated formYla used as koranic stop sign isolated formZSuddisa sirrahOradi allaahu anhAaaCumAaa
DnnaShimahu allaahHm allaahOsoul isolated formTeh with superscript alef isolated form
ZOsad with alef maksura final formKisolated formZBhah initial formLsolated formNwith hah final form
Kinitial formQyeh final formXkhah initial formRmeem initial formLsolated formNwith meem final form
Kinitial formZCreh final formKisolated formRyeh final formKisolated formYlaamuhu alaynaa
Nm isolated formQla isolated formNused as koranic stop sign isolated formZPllaahu alayhi wa-aalih
Thou alayhe wasallamSu alayhi waaalihee wa-sallamZLeen with alef maksura final formKisolated form
ZBhah initial formLsolated formNmedial formLwith jeem initial formZAeh initial formMmedial form
Pjeem initial formLsolated formNmedial formLwith alef maksura final formXhah initial form
ZBkhah initial formLsolated formNmedial formLwith alef maksura final formXyeh final form
Ymeem initial formLsolated formNmedial formLwith hah final formKinitial formQjeem initial form
Rmeem final formKinitial formZCreh final formKisolated formRyeh final formKisolated form
ZBhadda with damma isolated formNmedial formMtan isolated formWfatha isolated formNmedial form
Rkasra isolated formNmedial formMtan isolated formWsuperscript alef isolated form
ZPeen with alef maksura final formKisolated formZBhah final formKinitial formLsolated form
Nmedial formLwith meem final formKinitial formRyeh final formWeh initial formMmedial form
Pjeem final formKinitial formLsolated formNmedial formLwith yeh final formYkhah final form
Kinitial formLsolated formNmedial formQmeem final formKinitial formLsolated formNmedial form
Lwith khah final formKinitial formRmeem final formKinitial formZCreh final formKisolated form
Ryeh final formKisolated formZCubhaanahu wa taaalaaVtabaaraka wa-taaalaa
Sh with alef maksura final formKisolated formZBhah initial formLsolated formRmeem initial form
Lsolated formNmedial formLwith hah final formKinitial formQmeem initial formRyeh final form
Yyeh final formKisolated formZAeh with alef maksura final formKisolated formZBhah initial form
Lsolated formNwith jeem final formKinitial formRmeem initial formZAeh initial formMmedial form
Pjeem initial formLsolated formNwith alef maksura final formXmeem initial formRyeh final form
Ykhah initial formLsolated formNwith alef maksura final formXmeem initial formRyeh final form
Ymeem final formKinitial formLsolated formNmedial formLwith alef maksura final form
Xhah initial formQjeem initial formRkhah initial formRyeh final formYnoon final formPreh final form
Oyeh final formKisolated formRzain final formXhal with superscript alef isolated form
ZNeh with alef maksura final formKisolated formZBheh medial formPjeem isolated formSmeem final form
Kinitial formLsolated formNmedial formQnoon final formPreh final formOyeh final formKisolated form
Rzain final formZAuighur kirghiz yeh with hamza above with alef maksura final formKinitial form
Lsolated formZZRwasallam isolated formWyeh with alef maksura final formKisolated form
ZBhah initial formLsolated formNwith yeh final formVmza above with ae final formKisolated form
Plef final formKisolated formNmaksura final formKisolated formZBe final formKinitial form
Lsolated formPhah initial formLsolated formQeh initial formMmedial formPjeem initial form
Lsolated formSkhah initial formRmeem final formKinitial formLsolated formNmedial form
Qnoon final formPoe final formKisolated formQreh final formOu final formKisolated form
Pwaw final formKisolated formRyeh final formKisolated formQu final formKisolated form
Qzain final formZGeh initial formMmedial formPjeem initial formLsolated formNwith yeh final form
Ykhah initial formLsolated formSmeem final formKinitial formLsolated formNmedial form
Lwith meem final formKinitial formRyeh final formYnoon final formPreh final formOyeh final form
Kisolated formRzain final formYzah with meem initial formLsolated formNmedial formZJmadda waajib
Hh aboveKrk noon ghunnaLsideways noon ghunnaXthematical ainClefEbehDdadBlCotless behDfehDnoonEqaf
Juble-struck ainDbehDdadBlDfehDghainFhahDjeemEkhahElamDmeemEnoonEqafDrehDsadCeenDheenFtahCehChalCeh
EwawDyehDzahBinSfehDghainFhahDinitial ainDbehDdadDfehDghainFhahCehDjeemEkafChahElamDmeemEnoonEqaf
DsadCeenDheenFtehChehEyehLjeemEkafChahElamCooped ainClefEbehDdadBlDfehDghainFhahCehDjeemEkhahElam
DmeemEnoonEqafDrehDsadCeenDheenFtahCehChalCehEwawDyehDzahBinLmeemEnoonEoperator hah with dal
Mmeem with hah with tatweelZKqafDrehDsadCeenDheenEtretched ainDbehDdadCotless behDfehLfehDghainFhah
CehDjeemEkafChahEmeemEnoonEqafDsadCeenDheenFtahCehChehEyehDzahNtahBiled ainDdadCotless noonEqaf
LghainFhahDjeemEkhahElamDnoonEqafDsadCeenDheenFyehJehChalCehEwawDyehDzahBinRnumber mark aboveKsign
Lopen dammatanIfathatanIkasratanNpercent signLiastre mark aboveRlace of sajdahOoetic verse sign
Pund mark aboveQquestion markNraised round dotOyCeversed dammaNight arrowhead aboveA with dotObelow
Uounded high stop with filled centreZLsemicolonIhaddaA isolated formNmedial form
Rign alayhe assallamPmisraFradi allahou anhuPhmatullah alayheSsafhaDllallahou alayhe wassallam
ZBmvatEnahEindhi ampersandJpostposition menXtakhallusNmall dammaFfarsi yehHthaFhigh ain
Ddotless head of khahUfarsi yehIootnote markerPjeemElam alefHigature alef with lam with yeh
Wqaf with lam with alef maksuraZFsad with lam with alef maksuraZOmaddaEeem initial form
Lsolated formSnoonA with kasraPqafDrounded zeroMsadCeenDign safhaKtahChree dots
Kupright rectangular zeroYwawCord al-juzFn-nisfGr-rubFs-sajdaHth-thalathaMqifDsahBktaFwaqfaKyeh
A barree with two dots belowZFzahBinJkasraFlow meemEnoon with kasraPseenEwawCord imaalaFshmaam
HtasheelQwawDyehItart of rub el hizbTubscript alefMkunA belowFisolated formNmedial form
Pperscript alef mokhassasZAymbol dot aboveFbelowHuble vertical bar belowZAfour dots aboveFbelow
PringEsmall tah aboveFbelowPthree dots aboveFbelowFpointing downwards aboveFbelowZJwo dots above
FbelowFvertically aboveFbelowZAwasla aboveStail fragmentLtweelA with fathatan above
Ooverstruck hamzaFwawOtwo dots belowZBhousands separatorSone loop aboveFbelowKone dot aboveFbelow
Ntwo dots aboveFbelowSriple dot punctuation markZBurned damma belowSvertical tail
Mowel sign dot belowJinverted small v aboveWsmall v aboveYwavy hamza belowQzwarakay
J-indic cube rootJdigit eightFfiveDourEnineEoneDsevenEixDthreeEwoDzeroKfourth rootLper mille sign
Kten thousand signZHcBiesDmenian abbreviation markQpostropheKcapital letter aybDbenDcaBhaBehDoCda
CechChBtCfehDghadDimDhoCiniDjaBhehEkehBnDliwnEmenDnowDohCpehCiwrEraBehDsehChaDtiwnDoCvewCoCxehDyi
AwnEzaBheRommaFdram signJemphasis markMxclamation markQfull stopJhyphen
Gmodifier letter left half ringZFquestion markNsmall letter aybDbenDcaBhaBehDoCdaCechChBtCfehDghad
DimDhoCiniDjaBhehEkehBnDliwnEmenDnowDohCpehCiwrEraBehDsehChaDtiwnDoBurned aybKvewCoCxehDyi
A with strokeMwnEzaBheJigature ech yiwnImen echDiniDnowDxehHvew now
ZErow pointing downwards then curving leftwardsJrightwardsZIrightwards then curving downwards
Jsouth westKupwardsZGupwards then north westZIhead-shaped pointerWticulated lorryNst palette
Nscending nodeLia symbolKsertionHteriskA operatorKmFonished faceMraeaDonomical symbol for uranus
ZDymptotically equal toWthletic shoeLom symbolKubergineHstral signKto rickshawJmated teller machine
TobileJvestan abbreviation markRletter aAaAnBoCeAeCnBoCbeBheDceCdeBheDeAeCfeCgeBgeCheDheBmeDiAiCje
CkeCleCmeCneBgeBveCyeDneCyeDoAoCpeCreCseBheByeDsheEteBheCteDuAuCveCxeBveCyeDyeByeDzeBheQocadoGxe
DbabyA angelFbottleGchickFsymbolJck of envelopeLwith leftwards arrow above
ZC-tilted shadowed white rightwards arrowZOslanted south arrow with hooked tailJrizontal tailZOpace
GonCtrian camelMdgerDminton racquet and shuttlecockZGgelCgage claimKuette breadMlinese adeg adeg
Jcarik pamungkahHrerenHsikiKdigit eightFfiveDourEnineEoneDsevenEixDthreeEwoDzeroKletter aikaraFkara
A tedungLrchaic jnyaLsyura sasakMbaA kembangKcaA lacaHdaA maduDurda alpapranaJmahapranaSef sasak
HkaraFgaA goraHhaCikaraA tedungMjaA jeraHkaA mahapranaKf sasakIhot sasakKlaA lengaA tedungPmaCna
A rambatIgaCyaDokaraA tedungMpaA kapalIraA repaA tedungOsaA sagaCpaHtaA latikFmurda mahapranaPtawa
Gzir sasakKukaraA tedungMve sasakIwaCyaCzal sasakQmusical symbol combining bendeFendepFgongEjegogan
HkempliA with jegoganPulA with jegoganTtegehPdaengDingDngA gedeEsurangKengCungEingDongDung
Eleft-hand closed plakCukLopen pangDingDungTright-hand closed takCukKopen dagCugZJpamadaA lantang
LenengGntiA lantangNsign bisahFcecekFrerekanHsurangGulu candraGricemOvowel sign la lengaA tedung
PpepetA tedungMra repaA tedungOsukuA ilutJtalingA repaA tedungLtedungMedungGuluA sariTwindu
Ll of yarnIet shoesIoonA-spoked asteriskSt bold script xLxA with ballotFold checkFscript xNcheck
Flight xHscript xIxKscript xIxGmum colonDmbining mark koqndonHtukwentisVmaFfull stopJletter aBee
CfaamaeFeeComCuCiBkaBenBtBuxDiBoAghomEvuuEpaCuByeeElaBeeeeEiBoqCuCmAaBbaaCenDeeeeDnCiBoBuCnaBdaaDga
BgaCkwaenGiBjaemDeeCuaeEshaDteeCuuDuAaeDyiDoBpaBeeBuxDhase-a firiEgbiee fonIheuaegheuaeGraeJkafaCq
CetBukeutndaJpoqDuoqElapaqEet kutGommaeFuAaepFmaekeupEmAbgbieeGkpenEveuxFnyiDsiDnsuaeFp pieetIbanyi
DqDeunjomndeuqLgbasaFon nggeuaetKomeutDpuqGveuaengamKnaa mfonGqCda leeraewaJanggeuaetLenCganguEgen
Dkue mfonFnzeumJikaDjamDkaaraeFindiFshaBieeFtapA mfaaEntaaHoqpenGyetCiAt mongkeuaeqOza mfonGun meut
Jpa leeraewaJamBraeEmshaeFshaeFetCon mfon pipaembaCgbieeQpa nji pipaembaCgbieeVupDromDseunyam
Ghinda pa njiKraeEoq nshut yumMuenshuetHmDisaDonjamEqBtCuuDteuaenDteuwenIita mfonIu maembaHaep
Fu yuq naeInknownHveeFb feeBuxEgheughenBuaemLkamCeuaemDpuqDyeuxGieemDqDlaanaeEm nshut nyamNet
Com nteumJmaA njeuaenaGuqaHba maeleeHaraeFeuriEit mbaaketKuoqEeuqBt nggeetKfiyaqEon teuaeqKontieen
Indu njaaHggaamDeu mbuGuoqA largeKkindi mvopKomDsenChuetFtiee sheuoqLyaemaeFi nteumJparumEeeshiFit
CungaamHsakeuaeGet tuFhet njaqGuaeqtuIieeDueDtaamDu maemgbieeJnsieeIveumEwuaetFyafu leeraewaMeurae
Ic bungEfueDgbayiEhapBraeGkaaCen fatigueHlawFtBukaqDmBseuxDheuaepJparaqFuop nkaaraeKtDlamBpCiqCu
Cma keuaeriHnsieeGembaDsiEbaa cabbage-treeMpicketInyiEeekeetFraeDumBxDiArieenFtCuaemDeDgbasaqGiee
DuaeEnansanaqGqCdamBpCeuaereeFtDidaDombuFgaqCgenCuAaen nyamIeetDmBonEkaqCue maembaKomDjaemCmCeeee
DuxDueqEsaBeuaenFhaqDomCunBot ngomJtaaCenBungbaGu mbitHyir mkparaq meunQzaBeumFpenCinBrieenHru
CsetfonEuxDhiqCueqEuaetFtaashaeGetButeuxGita yueFuaepHveuaepenFxEwangkuoqHupDyaaCeuqDu muomaeHmBwoq
Hd faaCeufeuaetJghaaCeuaeGketBuaetmeunHmBot mbuaeIpDuAnBomCqCwaetEyeeEleeeeDtBuaepDmDieeDoqCumDm
AaenjetFleeriGbaaA sevenIuoDeeeeDunBtDfeuaeCtDieeDoAnDgbeunDieeDofumGoniDuBvopEndamCeeBuxDonDggaam
AaeEpCeuxDuomDwaenFkapCeuaeqDriEieeDunCyeeFiBjapCeuaemDtDiAeeDueqEsheeCutDieepBtEumDteeBumDuuDuByam
CetCiBueEpapCeeButaeFipCuqButEraemDen muchEoldGiiDsapBqCeuaeqFheeBuaeCxDiiCoqCuCotCuaeCeBuDtaeCeeee
DuaenDnBtDiBoqCuAotEwapCuaenFyaemmaeGenCuomBpCwoqHe aBfaAqCeeComCu callEiBremedyHeAtEgbetBuxEhaamae
FetBuaeCnBxDomEiBketBuaeCxDiBoBpeuxEuetCopCtDlaamCpBqCeuaemFomBonBtCqCuCmaAeAmCpBqCbeeBumEenCfeuq
EgbaBenEiAeeDonCuaeDviDnaAeCdaa my houseIsoftnessKpCiaqCqCunDgaBeureutGgeeeeDuaeAtFuaeshae nyamLp
BraeFkaAamiEeuaemDxDumBpDopBqCuaeAtFjaemliFeeA epochHuxEkomDshieeDueBopFtapCumDyi betweenHcleaver
KzaqCuqEoBpa peopleFluralHaAmDeemCutBxDiAeeqCtDoAonDuAaeBqCeBmDraeBqCeuxDimgbaGsaaCeeBtCheuaeqFiqCo
AqDomCuaenFtaaAqCen nteumImBqCenBuAaeqFooAnCqCuaeCmAaeFveeBuaeEomDweuxDueBoDyapCeuaeAtDmBxDieeCt
Coq coverFswimmingLuaenDeqCnBqFf eeCfomDkaBenBtCoBpaCuByeeElaBiBoqDmAaBbaaCenDeeeeEoCndaaDggaCkwaen
GiBjaemDuaeEshaDteeDuAaeDyiDpeeBuxDuaeEreeBnBuxDieeCiCuCsambaEeuxDhiiCoBuCiBuuDtaaBeCetDuBvueqEwa
BueDyaBoqKiBuaeCeDraeCeeBnBuxDieeCiCuCsambaEeuxDheuxDiiCoBuCiBuuDtaaBeCenBtCiCuBwaBueDyaBoqCuq
KnjaemliHquestion markNsemicolonNnanaDjoCkAnote with dollar signLeuro signJpound signKyen sign
Ur chartFof soapIber poleJseballFketAball and hoopQsa vah combining high toneF-low toneNlow tone
F-mid toneMmid toneSfull stopJletter aBbaCceCdhiiDoCeAeBnniEfaCgahCbuDhwahEiBjoCkaBpahEmbeDoAoCpa
CseCtoCuAwuDvuCwaAddaFyeinDieDzoRtAak consonant sign hBngRletter aBbaCcaCdaCgaChaCiBjaCkaro baHla
CmaAndailing haCnaCsaMbaDnaBdaCgaCorthern taKyaDpaAkpak waJraCsaBimalungun aBgaChaClaCmaCpaCraCsa
CwaCyaMouthern taLuBwaCyaJpangolatFongonanKsign tompiJymbol bindu judulFna metekIpangolatHinarboras
Xvowel sign eAeCiBkaro iBoGoBpakpak eIuA for simalungun saZIhAtubEteryGeach with umbrella
Qmed ascending musical notesXdescending musical notesYeighth notesMsixteenth notesTnsCr face
Fded personLting heartKverEcauseFdBer mugFtleElAlA pepperGsymbolGwith cancellation strokeZAhop bell
Kngali abbreviation signQnjiDu length markOcurrency denominator sixteenTnumerator fourEone
A less than the denominatorZEthreeEwoWdigit eightFfiveDourEnineEoneDsevenEixDthreeEwoDzero
Kganda markKissharGletter aAaBiBuCbaBhaDcaBhaDdaBdaBhaDhaDeBgaBhaDhaCiAiCjaBhaDkaBhaAnda taJlaCma
CnaBgaCnaCyaDoBpaBhaDraA with lower diagonalOmiddle diagonalWhaCraDsaBhaCsaDtaBhaCtaBhaEuAu
Cvedic anusvaraNocalic lAlCrArKyaByaKrupee markEsignKsandhi markKign anusvaraHvagrahaIcandrabindu
LnuktaFviramaEsargaMvowel sign aaBiBuCeBiAiCoBuAuCvocalic lAlCrAr
ZBt arrow pointing downwards then north eastZQo boxGzene ringA with circleWt symbolHweenFverage box
Lhaiksuki dandaEigit eightFfiveDourEnineEoneDsevenEixDthreeEwoDzeroJouble dandaMgap filler-1B2
Mhundreds unit markSletter aAaBiBuCbaBhaDcaBhaDdaBdaBhaDhaDeBgaBhaDhaCiAiCjaBhaDkaBhaDlaCmaCnaBga
CnaCyaDoBpaBhaDraCsaBhaCsaDtaBhaCtaBhaEuAuCvaBocalic lBrArKyaJnumber eightAyGfiftyDveDortyDurEnine
AtyGoneDsevenAtyGixAtyFtenChirtyEreeEwentyEoKsign anusvaraHvagrahaIcandrabinduLviramaEsarga
Mvowel sign aaBiBuCeBiAiCoBuAuCvocalic lBrArVword separatorXicycleBistHg reverse solidusPsolidus
JkiniElled capGiardsHohazard signMrdBthday cakeLsonDtcoin signJing lipJlack bowtie
Gcentre white starQhess bishopA rotated ninety degreesOtwo hundred seventy degreesZRequihopper
A rotated ninety degreesZIkingA rotated ninety degreesOtwo hundred seventy degreesZOnight
A rotated forty-five degreesSninety degreesOone hundred thirty-five degrees
ZGthree hundred fifteen degreesZDwo hundred seventy degreesPtwenty-five degreesZP-bishopGqueenFrook
LpawnA rotated ninety degreesOtwo hundred seventy degreesZPqueenA rotated ninety degrees
Otwo hundred seventy degreesZQrookA rotated ninety degreesOtwo hundred seventy degrees
ZPturned bishopGkingDnightGpawnEqueenFrookQircleA for recordKwith down arrowKtwo white dots
Owhite dot rightZBlub suitIross on shieldOurved downwards and leftwards arrowPrightwards arrow
ZFleftwards and downwards arrowPupwards arrowZCrightwards and downwards arrowPupwards arrow
ZDupwards and leftwards arrowPrightwards arrowZKdiamondA centredHminus white xNon crossIsuit
Ewith down arrowWown pointing backhand indexY-pointing double trianglePisosceles right triangle
Ysmall triangleOtriangleSwards equilateral arrowheadZFraughts kingEmanKopletHflagCoretteHolder
Eur pointed starRhard shell floppy diskVeartA suitIxagonGorizontal ellipseQurglassJlarge circle
GsquareLeft lane mergeKpointing backhand indexOindexP-pointing double triangleA with vertical bar
ZIisosceles right triangleYpointerHsmall triangleOtriangleSwards bulletGequilateral arrowhead
ZFower left triangleNright triangleSzengeHmedium diamondGown-pointing triangleA centred
ZFleft-pointing triangleA centredZEozengeHright-pointing triangleA centredZGsmall diamondHlozenge
HsquareLquareGup-pointing triangleA centredZJoon lilithLnibDoctagonHparallelogramMennantEtagon
HushpinHquestion mark ornamentWrectangleIight pointing backhand indexOindex
P-pointing double triangleA with vertical barZIisosceles right triangleYpentagonHointer
Hsmall triangleOtriangleA with double vertical barZSwards arrowAheadJbulletGequilateral arrowhead
ZGosetteHsafety scissorsOcissorsHhogi pieceKkull and crossbonesTlightly small circleGsquare
Umall diamondHlozengeHsquareFtarIiling faceLnowmanGpade suitJquareA buttonGcentredHfor stopOtar
Dun with raysNtelephoneIiny diamondHlozengeHsquareKouchtone telephoneSruckEwo-way left way traffic
Yuniversal recycling symbolZAp pointing backhand indexY-pointing double triangle
Pisosceles right triangleYsmall triangleOtriangleSper left triangleNright triangle
Swards equilateral arrowheadZEvertical ellipseHrectanglePy small diamondHlozengeHsquare
S-feathered north east arrowQrightwards arrowQsouth east arrowZBletter capital cBhBiBrBzTnk symbol
Kock sextant-1A2A3A4A5B6C5A6C6C4A5A6C6C5A6C6C3A4A5A6C6C56C6C4A5A6C6C5A6C6C2A3A4A5A6C6C5A6C6C4A5A6D5
A6C6C3A4A5A6C6C5A6C6C4A5A6C6C5A6C6MssomEwfishGue bookEheartGberriesKoarCld eight spoked asterisk
Vfive spoked asteriskUgreek crossLsaltireGix spoked asteriskTwhite circleGsquarePmAbCneCokAmark
A tabsJsCmerangHpomofo final letter gBhBkBpBtOletter aAhBiAnnDmBnAgBnCuAnnEbAuCcAhCdBeAeBhBiBnAgBn
CrCfBgAhBnBuBwChBiAhBmBnnAnDrBuCjAiCkAwClAhCmBnAgAgCnCoA with dot abovePeBmBngBnCoBuCpBqBrBsAhCtBu
AnnDvBxBzAhBiByQttle with popping corkUom arc anticlockwise arrowXcurly bracketNhalf black circle
MintegralIleft parenthesisQright parenthesisWleft cornerFropEhalf bracketRparenthesisLright corner
FropEhalf bracketSsquare bracketA over top square bracketZNtortoise shell bracketZCuquet
A of flowersQw and arrowKl of hygieiaKwith spoonLingEtieA with left half blackPright half black
ZBx drawings double down and horizontalKleftErightOhorizontalKup and horizontalKleftErightMvertical
A and horizontalKleftErightXwn double and horizontal singleRleft singleLright single
Xheavy and horizontal lightQleft lightFup lightNright lightFup lightOup horizontal light
ZElight and horizontal heavyQleft heavyFup heavyNright heavyFup heavyOup horizontal heavy
ZEsingle and horizontal doubleRleft doubleLright doubleZDheavy double dash horizontalKverticalSwn
A and horizontalKleftErightOhorizontalKleftA and light rightUquadruple dash horizontalKvertical
XrightFtriple dash horizontalKverticalUupA and horizontalKleftDight downKrightMvertical
A and horizontalKleftErightYleft down heavy and right up lightZEheavy and right down lightKup light
Ivertical lightZFlight and right down heavyKup heavyIvertical heavyZFup heavy and right down light
ZIight arc down and leftErightOup and leftErightQdiagonal crossFdiamondHmiddle left to lower centre
A to middle rightZDupper centre to middle rightA to lower centreZZCright to lower centre
Mupper centre to middle left to lower centreZZJupper centre to middle left
A and middle right to lower centreZHto lower centreA to middle rightZLright
A and middle left to lower centreZGto lower centreA to middle leftZZDleft to lower right
Tright to lower leftZIouble dash horizontalKverticalSwnA and horizontalKleftErightOhorizontal
A with vertical strokeZGleftA and heavy rightUquadruple dash horizontalKverticalXright
Ftriple dash horizontalKverticalUupA and heavy downJorizontalKleftErightMverticalA and horizontal
KleftErightYright down heavy and left up lightZDheavy and left down lightKup lightIvertical light
ZElight and left down heavyKup heavyIvertical heavyZEup heavy and left down light
ZJup double and horizontal singleRleft singleLright singleXheavy and down horizontal light
Vhorizontal lightQleft down lightKlightKright down lightKlightVlight and down horizontal heavy
Vhorizontal heavyQleft down heavyKheavyKright down heavyKheavyVsingle and horizontal double
Rleft doubleLright doubleZBvertical double and horizontal singleRleft singleLright single
Xheavy and horizontal lightQleft lightKright lightVlight and horizontal heavyQleft heavy
Kright heavyVsingle and horizontal doubleRleft doubleLright doubleZRing gloveKyAs symbolKph
Crahmi dandaEigit eightFfiveDourEnineEoneDsevenEixDthreeEwoDzeroJouble dandaMletter aAaBiBuCbaBha
DcaBhaDdaBdaBhaDhaDeBgaBhaDhaCiAiCjaBhaDkaBhaDlaBlaDmaCnaBgaCnaCyaDoAld tamil llaBlaEnnnaErra
Dshort eBoRpaBhaDraCsaBhaCsaDtaBhaCtaBhaEuAuCvaBocalic lAlCrArKyaJnumber eightAyGfiftyDveDortyDur
EjoinerGnineAtyGoneA hundredHthousandMsevenAtyGixAtyFtenChirtyEreeEwentyEoKpunctuation crescent bar
MdotBuble dotKlineDotusRsign anusvaraIcandrabinduLjihvamuliyaLold tamil viramaQupadhmaniyaLvisarga
MviramaFowel sign aaBiBuCbhattiprolu aaOeBiAiCoAld tamil short eBoRuAuCvocalic lAlCrAr
ZAille pattern blankFdots-1A2A3A4A5A6A7A8C8C7A8C8C6A7A8C8C7A8C8C5A6A7A8C8C7A8C8C6A7A8C8C7A8C8C4A5A6
A7A8C8C7A8C8C6A7A8C8C7A8C8C5A6A7A8C8C7A8C8C6A7A8C8C7A8C8C3A4A5A6A7A8C8C7A8C8C6A7A8C8C7A8C8C5A6A7A8
C8C7A8C8C6A7A8C8C7A8C8C4A5A6A7A8C8C7A8C8C6A7A8C8C7A8C8C5A6A7A8C8C7A8C8C6A7A8C8C7A8C8C2A3A4A5A6A7A8
C8C7A8C8C6A7A8C8C7A8C8C5A6A7A8C8C7A8C8C6A7A8C8C7A8C8C4A5A6A7A8C8C7A8C8C6A7A8C8C7A8C8C5A6A7A8C8C7A8
C8C6A7A8C8C7A8C8C3A4A5A6A7A8C8C7A8C8C6A7A8C8C7A8C8C5A6A7A8C8C7A8C8C6A7A8C8C7A8C8C4A5A6A7A8C8C7A8C8
C6A7A8C8C7A8C8C5A6A7A8C8C7A8C8C6A7A8C8C7A8C8SnDeadBk permitted hereQst-feedingLveDickCde with veil
Lge at nightMefcaseEsEoccoliFken barDcircle with northwest arrowZCheartJomCwn heartKsBubble teaEs
FcketEgAinese end of sectionOletter aBbaCcaCdaCgaChaCjaCkaClaCmaBpaDnaBgaBkaDraCyaBcaEpaCraCsaCta
CvaCyaJpallawaHvowel sign aeCeBiBoBuThid letter aBbaCdaCgaChaCiBkaClaCmaCnaBgaDpaCraCsaCtaCuBwaCya
Jvowel sign iBuQilding constructionTlletA operatorLhornA with sound wavesVseyeGrritoFsA stop
Ft in silhouetteOs in silhouetteRtterAflyIyte order markNzantine musical symbol agogi argiBoteri
IgorgiBoteriJmesiCtriaGpoli argiEgorgiPnatrichismaKtikenokylismaHmaJpeso ekfonitikonKxo neoLli
Coderma archaionIneoJstrofoi syndesmos neoNtelous ichimatosSsA dipliFneoLthemaHrgonBsyntheton
Lktiko diCgaCkeCniCpaCvouDzoKchamiliBonGorevma archaionIneoKroa klitonGspathiGzygosLdaseiaFiargon
Estoli apli megaliFikriKdipliFtheseosOesis apli dyo dodekataRdigrammos ex dodekata
Vmonogrammos tessera dodekataZDtetartimorionMrigrammos okto dodekataVtimorionQftoggos ouKgorgon
A parestigmenon aristera anoDkatoNdexiaZAramma ggJpliA archaionNyoDekstreptonJlafron
Gnarxis kai fthora vouUdofononIpegermaHteron argosynthetonNparakalesmaRxo ekfonitikon
Pfanerosis difoniasImonofoniasKtetrafoniasUhtora skliron chroma vasisZBthora archaion
A deyterou ichouXdiatoniki diCkeCnanaDi anoDkatoHpaCzoMenarmonios antifoniaUi yfesis tetartimorion
Wmalakon chroma difoniasImonofoniasZAnaos ichosJenanoGskliron chroma synafiGvasisMdiatonon di
ZBgeniki diesisGyfesisMorgon archaionIneo anoDkatoIparestigmenon aristeraIdexiaVsyntheton
Lthmikon n aplounGdiplounTronthismataMichadinGmidiargonHfononEthoraBonJsakia telous ichimatos
Von archaionIneoIkatava tromikonJsmaGhistiHentima archaionIneo anoDkatoEmesoJtaA archaionIneo ano
DkatoEmesoRlasmaA anoDkatoKontevmaA alloLronisFufismaHratima alloDrchaionIneoEtaDokoufismaIyporroon
NemastiHylismaHleimma dyo chrononLenos chronouMimiseos chronouPtessaron chrononPrion chrononSmoi
EygismaHmartyria alli deyteros ichosOprotos ichosRdeyteros ichosOlegetos ichosNplagios ichos
Ftetartos ichosVrotos ichosHvarys ichosQtetartos ichosFlegetos ichosVrifoniasGtos ichosMvarys ichos
Tikron isonLnanaEoligon archaionIneoJmalonFxeia dipliFekfonitikonLneoEi archaionOyranisma archaion
IneoNparakalesma archaionIneoKlitikiA archaionIneoMichonHelastonA neoKrispomeniJtasmaCtiBokoufisma
Oiasma archaionIneoJsifistolygismaHnA neoFparakalesmaLsynagmaMliBonGrapismaGevmaFsaximataHeisma
A neoJimansis arseosA disimouHtetrasimouJrisimouPtheseosA disimouHtetrasimouJrisimouYtavros
A apodexiaOigmaEraggismataLynagma archaionImeta stavrouMneoIevmaFrmaAtikiJteleiaEsseraFtrapliHhema
A aplounHtismos esoCxoMs kai apothesOitaEinagmaGriaBgorgonGpliEomikolygismaHn alloDrchaionIneo
FparakalesmaKsifistonJsynagmaOvareia dipliFekfonitikonLneoEi archaionOthyFxiron klasmaMyfen ano
DkatoGsis apli dyo dodekataRdigrammos ex dodekataVmonogrammos tessera dodekata
ZDtrigrammos okto dodekataVtimorionRpokrisisA dipliMrroiFsiliZGcactusEda unaFuceusGlendarFl me hand
KmeraA with flashOpingFnAadian syllabics aAaAiByCiAvilik bInBthapascan mBsLyCbeaver dene lBr
Mible-cree yLlackfoot aBeBiBkaBeBiBoCnaBeBiBoCoBsBwAaBeBiBoMcAaAaAiCrrier chaBeAeCiBoBuDdeeBne gee
Ftal sHiBlaBeAeCiBoBuCzaBeAeCiBoBuDeeCgaAaCeAeChaBeAeCiBoBuCiBoBuBwaBuDhAeeCiBwaBeAeCiBoBuDi
Anitial zJjaBeAeCiBjaBeAeCiBoBuCoBuBwaDkhaBeAeCiBoBuCkAaBeAeCiBoBuDlaBeAeChaBeAeCiBoBuCiBoBuCmaBeAe
CiBoBuCnaBeAeCgBiBoBuCpAaBeAeCiBoBuCraBeAeCiBoBuCsaBeAeChAaBeAeCiBoBuCiBoBuCthaBeAeCiBoBuClaBeAeCha
BeAeCiBoBuCiBoBuCsaBeAeCiBoBuCtaBeAeCiBoBsaBeAeCiBoBuCuDwaBeAeCiBoBuCyaBeAeCiBoBuCzAaBeAeCiBoBuJe
Bhi signHiAiCoAoCwaAaCeBiAiCoAoEeAastern wInCfAaAaAiDeBiAiBnal acuteFbottom half ringQdouble acute
Fshort vertical strokesZCwn tackJgraveFmiddle dotKplusEraised dotJight half ringNng
Eshort horizontal strokeWmall ringKtop half ringSoAoCull stopIwaaEglottal stopMhkByphenGiAiBnCkAaAa
AiCyCeBiAiCoAoCwAaAaByCeBiAiCoAoElAaAaAiCyCeBhAaAaCiAiCoAoDiAiCoAoCwaAaCeBiAiCoAoEmAaAaAiCyCe
Adial lBrHhBiAiCoAoAse-cree skMwaAaCeBiAiCoAoEnA-cree theBiAiKaAaAiCskapi cwaaEkwaaEmwaaEnwaaEs-w
CcwaDkwAaDpwaDtwaDwaaEtwaaEwaaCooDywaaKttilik haAaCiAiCoAoDshraAaCiAiCoAoMyCeBgAaAaAiCiCiAiCoAoDhBi
AiCngAaAaCiAiCoAoEoAoByCunavik hAaAaCeBiAiCoAoGut hIwaAaCeBiAiCoAoEoAjibway cBkBmBnAwiAiCoAoEpBsAh
CtInBoByCpAaAaAiCyCeBiAiCoAoByCwaAaCeBiAiCoAoByEqAaAaAiCiCiAiCoAoDrA-cree reBweJaAaAiCyCeBiAiCoAo
CwaAaCeeCiAiCoAoEsAaAaAiCyAisi haBeBiBoAoDjiBuAuDmBshaBeBiBoAoCweEthCyiIeBhAaAaByCeBiAiCoAoByCwaAa
CeBiAiCoAoByEiAiCoAoButh-slavey kahCehCihCohOyCpaBeBiBoCwAaAaCeBiAiCoAoEtAaAaAiCyCeBhA-cree thAaAa
CeBiAiCoAoKaAaCeBiAiCoAoCwaAaCeDiAiClhaBeBiBoAoCweEoAoCtaBeBhAaAaCeBiBoAoCweDiBoCwaAaCeBiAiCoAoDya
BeBiBoDwaAaByCeAst-cree cwaAaCeBiAiCoAoEfwaaEkwaAaCeBiAiCoAoElAaAaCeBoAoCwaAaCeBiAiCoAoEmAwaAaCeBi
AiCoAoEnwaAaCeDpAwaAaCeBiAiCoAoErAaBeBiBoBwaaEshwaAaCeBiAiCoAoEwaAaCeBiAiCoAoEthwaaEwaAaCeBiAiCoAo
EwaAaCeBiAiCoAoDyAwaAaCeBiAiCoAoKern wIiAiCoAoAds-cree final thIthAaBeBiBoBwaAaCeeCiAiCoAoQy
A-cree cooDkooDlooDmooDnooDooCpooCwaaEsooDtooDwByooJaAaAiCyCeBiAiCoAoByCwaAaCeBiAiCoAoUcel
A characterJtagElation xJrDdleCyCned foodIoeDpitulumGricornHr slidingId file boxIindexA dividers
Qe ofDtA insertion pointSian letter aA2CbBc-18C39EdA2CeA2CgA2CiAiCkA2ClAdA2DmAbA2B3B4DnAdBgBnCoBpA2
CqBrArCsAhA2CsBtA2DtAtA2DuAuAuA2B3BuExMonBusel horseLp streamerJentry sawKriage returnLotEstleEt
A faceA with tears of joyMwry smileVucasian albanian citation markNletter altCorDbetDcarBynDhaAtCi
BoyDyawByEdatCyanDzayCyayFebBynDfamDgheysEimDheytEinyaDrbCwnDjaynDhoxEkarCiwDlanCyitEmaqDnowcEon
CpenCiwrEqarByDratDseykDhaAkCoyEtasCiwrDyayEveyzExeynEyaydDowdEzarlDhaBilZCtion signLchCedi sign
FllaFltic crossKnt signFre line symbolMline low lineIoverlineRresEgjChainsCrCkma au markHdanda
Eigit eightFfiveDourEnineEoneDsevenEixDthreeEwoDzeroJouble dandaMletter aaCbaaChaaEcaaChaaEdaaCdaa
ChaaEhaaEeBgaaChaaEhaaDiBjaaChaaEkaaChaaElaaChaaEmaaDnaaCgaaDnaaDyaaEpaaChaaEraaDsaaDtaaChaaDtaa
ChaaFuBvaaDwaaDyaaCyaaLmaayyaaHo markGquestion markNsection markLign anusvaraIcandrabinduLvisarga
MviramaFowel sign aAaBiBuCeAiCiAiCoAiCuAuRm consonant sign final hBmBngIlaCraCwaCyaRdigit eight
FfiveDourEnineEoneDsevenEixDthreeEwoDzeroKletter aAiCbaBbaChaDchaBhaEdaBdaChaDeBfinal chCgBkBlBnAg
CpBrBssCtByHgaBhaDhaCiBjaBhaDkaBhaDlaCmaBueDnaBgaBueDhaBjaCueDueDoBpaBhaCpaDraCsaBsaDtaBhaDuBvaCya
Jpunctuation dandaEouble dandaMspiralGtriple dandaYvowel sign aaBiBuCeiCiAiCoAeCuAe
Practer tabulationA setDwith justificationZDieJt with downwards trendPupwards trendA and yen sign
ZKeck markFer boardA fillPering megaphoneOse wedgeJquered flagLrokee letter aBdaBeBiBlaCoBuBvCeBga
BeBiBoBuBvChaBeBiBnaCoBuBvCiBkaClaBeBiBoBuBvCmaBeBiBoBuBvCnaAhCeBiBoBuBvCoBquaBeBiBoBuBvDsAaBeBiBo
BuBvCtaBeBiBlaBeBiBoBuBvCsaBeBiBoBuBvDuBvBwaBeBiBoBuBvCyaBeBiBoBuBvJsmall letter aBdaBeBiBlaCoBuBv
CeBgaBeBiBoBuBvChaBeBiBnaCoBuBvCiBkaClaBeBiBoBuBvCmaBeBiBoBuBvCnaAhCeBiBoBuBvCoBquaBeBiBoBuBvDsAaBe
BiBoBuBvCtaBeBiBlaBeBiBoBuBvCsaBeBiBoBuBvDuBvBwaBeBiBoBuBvCyaBeBiBoBuBvUriesDy blossomLstnutGi rho
EckenEldAren crossingOpmunkFronEocolate barKpsticksHrasmian letter alephEyinEbethEcurled wawKdaleth
GgimelFheAthEkaphElamedhGmemDnunDpeCreshEsamekhFhinDmall alephLtawDwawDyodhEzayinMnumber fourEone
A hundredLtenChreeEwentyEoTristmas treeMurchFinema
Ercle divided by horizontal bar and top half divided by vertical bar
ZZMwith all but upper left quadrant blackZIhorizontal barOleft half blackOower half black
Qright half blackQsmall circle to the rightYuperimposed xOtwo horizontal strokes to the right
ZKupper half blackKright quadrant blackZBvertical fillTd anticlockwise arrowG-rotated division sign
ZJsterisk operatorRbold xFulletGc with overlaid backslashYcBdBross formeeA with four dotsJtwo dots
UpommeeHing lanesOdashDigit eightFfiveDourEnineEoneDsevenEixDthreeEwoDzeroIvision signDlash
Nollar sign with overlaid backslashZIt operatorMequalsGgreater-thanMhangul chieuchA aIieucA aHhieuh
A aHieungA aBuHkhieukhA aIiyeokA aImieumA aHnieunA aHphieuphA aIieupA aHrieulA aHsiosA aGthieuthA a
IikeutA aOeavy white rightwards arrowZCorizontal bar with notchYuman figureMideograph accept
FdvantageIllianceHttentionJcentreFongratulationMpyCrrectHearthEightEnterpriseJxcellentJfemale
FinancialHreCveDourEhaveDighEitemEkindergartenLotoElaborEeftDowDmaleDedicineGtalEoonEnameDightDne
EoneDprintFquestionIreligionGsourceFtDightFschoolFecretEvenEixCocietyGpecialGtockDudyEuitableGn
BperviseJtenChreeEwoDwaterEoodNnformation sourceRtalic latin capital letter cBrZEkatakana aBeBhaBe
BiBoBuCiBkaBeBiBoBuCmaBeBiBoBuCnaBeBiBoBuCoBraBeBiBoBuCsaBeBiBoBuCtaBeBiBoBuCuBwaBeBiBoCyaBoBu
Korean character chamkoGjueuiWlatin capital letter aBbBcBdBeBfBgBhBiBjBkBlBmBnBoBpBqBrBsBtBuBvBwBx
ByBzQsmall letter aBbBcBdBeBfBgBhBiBjBkBlBmBnBoBpBqBrBsBtBuBvBwBxByBzTess-thanJminus
Eultiplication sign with circumflex accentZRnumber eighteenDy on black squareVlevenGfifteenDy
A on black squareUortyA eightFfiveDourEnineEon black squareNeDsevenEixDthreeEwoHurteenInineteen
IseventeenDy on black squareWixteenDy on black squareVtenA on black squareShirteenDyA eightFfive
DourEnineEon black squareNeDsevenEixDthreeEwoJwelveDntyA eightFfiveDourEnineEon black squareNe
DsevenEixDthreeEwoRopen centre eight pointed starZFparallelHerpendicularMlusDostal mark
Lreverse solidusOing operatorNsquareGtimesEriangleA downNvertical barMwhite bulletGstarJzCx
Bzero with slashTulation functionPmflex accentMs tentJtyscapeA at dusk
Qjk compatibility ideograph-2f800B1B2B3B4B5B6B7B8B9BaBbBcBdBeBfC10B1B2B3B4B5B6B7B8B9BaBbBcBdBeBfC20
B1B2B3B4B5B6B7B8B9BaBbBcBdBeBfC30B1B2B3B4B5B6B7B8B9BaBbBcBdBeBfC40B1B2B3B4B5B6B7B8B9BaBbBcBdBeBfC50
B1B2B3B4B5B6B7B8B9BaBbBcBdBeBfC60B1B2B3B4B5B6B7B8B9BaBbBcBdBeBfC70B1B2B3B4B5B6B7B8B9BaBbBcBdBeBfC80
B1B2B3B4B5B6B7B8B9BaBbBcBdBeBfC90B1B2B3B4B5B6B7B8B9BaBbBcBdBeBfCa0B1B2B3B4B5B6B7B8B9BaBbBcBdBeBfCb0
B1B2B3B4B5B6B7B8B9BaBbBcBdBeBfCc0B1B2B3B4B5B6B7B8B9BaBbBcBdBeBfCd0B1B2B3B4B5B6B7B8B9BaBbBcBdBeBfCe0
B1B2B3B4B5B6B7B8B9BaBbBcBdBeBfCf0B1B2B3B4B5B6B7B8B9BaBbBcBdBeBfD900B1B2B3B4B5B6B7B8B9BaBbBcBdBeBf
C10B1B2B3B4B5B6B7B8B9BaBbBcBdBeBfC20B1B2B3B4B5B6B7B8B9BaBbBcBdBeBfC30B1B2B3B4B5B6B7B8B9BaBbBcBdBeBf
C40B1B2B3B4B5B6B7B8B9BaBbBcBdBeBfC50B1B2B3B4B5B6B7B8B9BaBbBcBdBeBfC60B1B2B3B4B5B6B7B8B9BaBbBcBdBeBf
C70B1B2B3B4B5B6B7B8B9BaBbBcBdBeBfC80B1B2B3B4B5B6B7B8B9BaBbBcBdBeBfC90B1B2B3B4B5B6B7B8B9BaBbBcBdBeBf
Ca0B1B2B3B4B5B6B7B8B9BaBbBcBdBeBfCb0B1B2B3B4B5B6B7B8B9BaBbBcBdBeBfCc0B1B2B3B4B5B6B7B8B9BaBbBcBdBeBf
Cd0B1B2B3B4B5B6B7B8B9BaBbBcBdBeBfCe0B1B2B3B4B5B6B7B8B9BaBbBcBdBeBfCf0B1B2B3B4B5B6B7B8B9BaBbBcBdBeBf
Da00B1B2B3B4B5B6B7B8B9BaBbBcBdBeBfC10B1B2B3B4B5B6B7B8B9BaBbBcBdFf900B1B2B3B4B5B6B7B8B9BaBbBcBdBeBf
C10B1B2B3B4B5B6B7B8B9BaBbBcBdBeBfC20B1B2B3B4B5B6B7B8B9BaBbBcBdBeBfC30B1B2B3B4B5B6B7B8B9BaBbBcBdBeBf
C40B1B2B3B4B5B6B7B8B9BaBbBcBdBeBfC50B1B2B3B4B5B6B7B8B9BaBbBcBdBeBfC60B1B2B3B4B5B6B7B8B9BaBbBcBdBeBf
C70B1B2B3B4B5B6B7B8B9BaBbBcBdBeBfC80B1B2B3B4B5B6B7B8B9BaBbBcBdBeBfC90B1B2B3B4B5B6B7B8B9BaBbBcBdBeBf
Ca0B1B2B3B4B5B6B7B8B9BaBbBcBdBeBfCb0B1B2B3B4B5B6B7B8B9BaBbBcBdBeBfCc0B1B2B3B4B5B6B7B8B9BaBbBcBdBeBf
Cd0B1B2B3B4B5B6B7B8B9BaBbBcBdBeBfCe0B1B2B3B4B5B6B7B8B9BaBbBcBdBeBfCf0B1B2B3B4B5B6B7B8B9BaBbBcBdBeBf
Da00B1B2B3B4B5B6B7B8B9BaBbBcBdBeBfC10B1B2B3B4B5B6B7B8B9BaBbBcBdBeBfC20B1B2B3B4B5B6B7B8B9BaBbBcBdBe
BfC30B1B2B3B4B5B6B7B8B9BaBbBcBdBeBfC40B1B2B3B4B5B6B7B8B9BaBbBcBdBeBfC50B1B2B3B4B5B6B7B8B9BaBbBcBdBe
BfC60B1B2B3B4B5B6B7B8B9BaBbBcBdC70B1B2B3B4B5B6B7B8B9BaBbBcBdBeBfC80B1B2B3B4B5B6B7B8B9BaBbBcBdBeBf
C90B1B2B3B4B5B6B7B8B9BaBbBcBdBeBfCa0B1B2B3B4B5B6B7B8B9BaBbBcBdBeBfCb0B1B2B3B4B5B6B7B8B9BaBbBcBdBeBf
Cc0B1B2B3B4B5B6B7B8B9BaBbBcBdBeBfCd0B1B2B3B4B5B6B7B8B9ZDradical bambooFlueDolt of clothLneCx
Crush oneDtwoJc-simplified birdEcartEdragonGeatCvenEfishDlyCrogEgateDoldEhorseFleafDongEsaltDee
ChellEilkDpeechGtanned leatherNoothEurtleGwindQhokeEityCvilianHliffDothesGowDdeathEivinationJog
Deat oneDthreeEwoGweCyeDfireDootEghostErass oneDthreeEwoJhandDeadBrt oneDtwoIorn
Ej-simplified dragonGevenEtoothEurtleSadeEknife oneDtwoJlame fourEoneDthreeEwoHong oneDtwoImeatCsh
DoonCrtarEtherEund oneDtwoJnet fourEoneDthreeEwoHoldDpaw oneDtwoGersonGrainCmBpCepeatGsealCcond one
DthreeEwoJheepEilkCmplified half tree trunkOornEwalkDheatFyellowQmall oneDtwoInakeDout oneDtwo
Ipirit oneDtwoJunDtableEhreadFigerEurtleGwalk oneDtwoGter oneDtwoIest oneDtwoQstroke bxgDdBhAgBpAwg
DxwgDzAgBtBwAgCzApBzAgFnBpAdBgBzCqBsAgBpBtBwAgBzCzAwgCzDtAnCwgCxgMlamshell mobile phoneTpper board
Iing hands signQssical buildingQear screen symbolRinking beer mugsJglassesNpboard
Hock face eight oclockH-thirtyLleven oclockH-thirtyNfive oclockH-thirtyKour oclockH-thirty
Lnine oclockH-thirtyLone oclockH-thirtyKseven oclockH-thirtyLix oclockH-thirtyKten oclockH-thirty
Jhree oclockH-thirtyLwelve oclockH-thirtyLo oclockH-thirtyQwise closed circle arrowSontour integral
Qdownwards and upwards open circle arrowsZPgapped circle arrowTintegralIopen circle arrow
Rright and left semicircle arrowsZCwards and leftwards open circle arrowsA with circled one overlay
ZZStop semicircle arrowTriangle-headed open circle arrowZPse upDd bookEintersection with serifs
Ylock with keyNmailbox with lowered flagMraised flagYsubsetA or equal toQpersetA or equal to
UumbrellaHnion with serifsA and smash productZOudA with lightningJrainEsnowEtornadoPwn faceJoat
CckroachFtail glassLonutFffinEinCllision symbolNonA equalsGsignImbining acute accentA below
Mtone markK-grave-acuteLmacronLlmost equal to aboveFbelowUnnuity symbolMticlockwise arrow above
Lring overlayZAsterisk aboveFbelowObindu belowKreveA belowG-macronKidge aboveFbelowMcandrabinduJron
A belowKedillaGircumflex accentA belowWlockwise arrow aboveLring overlayVomma aboveA rightLbelow
Jnjoining macronA belowWyrillic dasia pneumataOhundred millions signNthousands signWkavykaGletter a
BbeBig yusHcheDdeBjervFefBlBmBnBrBsA-teFfitaEgheDhaArd signJiAeBotified aBbig yusHeKkaClittle yus
Kmonograph ukMoAmegaFpeCshaBchaEoft signJteBseDuAkrainian ieMveCyatCeruDiBuCzeBheKmillions sign
NpalatalizationMyerokGokrytieHsili pneumataOten millions signQhousand millions signVitloA left half
Jright halfQvzmetOdeletion markLvanagari digit eightFfiveDourEnineEoneDsevenEixDthreeEwoDzero
Kletter aBkaCnaCpaCraCuBviJsign avagrahaXiaeresisA belowG-ringNot aboveA leftErightLbelowA left
Lted acute accentMgrave accentRuble acute accentMbreveA belowLcircumflex aboveQgrave accent
Minverted breveA belowUlow lineImacronA belowMopen mark belowOverlineIparentheses above
Qlus sign aboveFbelowPrightwards arrow belowUng belowKtildeA left halfJright half
Qvertical line aboveFbelowKstroke overlayYd circumflex accentXwn tack belowLwards arrow
Penclosing circleA backslashQdiamondHkeycapGscreenFquareGupward pointing triangleZIquals sign below
RfermataGour dots abovePglagolitic letter azuDbig yusGukyEchriviGdjerviFobroFfitaDrituFglagoliHheru
EiAnitial izheLotated big yusHsmall yusQzheEkakoEljudijeHmysliteHnashiFonuDpokojiGritsiFshaBtaDlovo
Emall yusJtsiCvridoGukuDvedeEyatiDeriBuCstuEoBuCzemljaFhiveteYrantha digit fiveDourEoneDsixDthree
EwoDzeroKletter aBkaCnaCpaCviOpheme joinerMve accentA belowMtone markK-acute-graveLmacron
Keek dialytika tonosPkoronisHmusical pentasemeJtetrasemeIrisemePperispomeniLypogegrammeni
Thomothetic aboveOok aboveIrnEinfinityGverted breveA belowJidge belowMdouble arch aboveFbelow
ZAs belowIkatakana-hiragana semi-voiced sound markWvoiced sound markZIvyka above leftEright
Slatin letter small capital gBlBmBnBrWsmall letter aA with diaeresisPeBlphaEoBvCbAetaEcA cedillaJd
BeAshCthDfAlattened open a aboveWgBhBiAnsular dBgBrBtJkBlA with double middle tildeZAong sGmBnBo
A with diaeresisJlight centralization strokeZJpBrA belowFrotundaJsAchwaFtAurned w belowOu
A with diaeresisJlight centralization strokeZJvBwA belowHxBzTeft angle aboveFbelowKrrow aboveFbelow
Ghead aboveFbelowPhalf ring aboveFbelowNrpoon aboveNparenthesis above leftKbelow left
Wright arrow aboveFbelowRtack belowLwards arrow overlayNharpoon with barb downwards
ZLigature left halfA belowPright halfA belowWht centralization stroke below
ZHong double solidus overlayWsolidus overlayOtroke overlayOvertical line overlayYw lineImacron
A belowFleft halfA belowPright halfA belowR-acuteFbreveFgraveLinus sign belowQnot tilde above
Oumber sign aboveRogonekA aboveLld permic letter anCdoiDnenoeFsiiDzataVpen mark belowOverline
Ipalatalized hook belowUrentheses aboveFbelowFoverlaySlus sign aboveFbelowPretroflex hook below
Sverse solidus overlayQd comma aboveTight arrow aboveFbelowGhead aboveEnd down arrowhead below
Uup arrowhead belowWbelowPhalf ring aboveFbelowNrpoon aboveNparenthesis above rightLbelow right
Xtack belowLwards harpoon with barb downwardsZLng aboveFbelowFoverlayMseagull below
Mhort solidus overlayOtroke overlayOvertical line overlayZBnake belowKquare belowErackets above
Utrong centralization stroke belowZIuspension markPthree dots abovePildeA belowFleft half below
PoverlayHright half belowVriple acute accentMdotDunderdotOurned comma aboveSup tack aboveFbelow
Lwards arrow belowSr aboveHs aboveIvertical line aboveFbelowKtildeOwide bridge above
Minverted bridge belowYggly line belowRx aboveFbelowG-x belowJzigzag aboveFbelowTetCmaBercial at
Cminus signSpassDlementGosition symbolOressionJnfetti ballJounded faceLused face
Kgruent with dot aboveVical taperKjunctionIstruction signEworkerQtains as memberGnormal subgroup
A or equal toZFwith long horizontal strokeWoverbarHvertical bar at end of horizontal stroke
ZZAinuous underline symbolXour integralMrol knobsFsequence introducerYvenience storePoked riceHie
BngFptic capital letter akhmimic kheiMlfaEbohairic kheiNcrossed sheiKyptogrammic eieDgangiaGniCshei
SdaldaEeiCialect-p alefEhoriEkapaEniMeieDfeiCiCgammaDngiaGhateDoriEiaudaFkapaDheiCiCsiDl-shaped ha
KaulaFmiCniCoAld coptic ainDdjaDeshDgangiaGhaAtCeiCoriEoouDsheiCimaMnubian ngiCyiDshimaFwauNouDpi
BsiDroCsampiEheiCimaEimaDouDtauChetheGuaCvidaEzataSombining ni aboveIspiritus asperFlenis
Yepact digit eightFfiveDourEnineEoneDsevenEixDthreeEwoJnumber eight hundredIyGfiftyDve hundredLorty
Dur hundredMnine hundredItyGone hundredLseven hundredItyGix hundredItyFtenChirtyEree hundredMwenty
Eo hundredSthousands markUfraction one halfQull stopJmorphological divider
Vold nubian direct question markUfull stopJindirect question markWverse divider
Ysmall letter akhmimic kheiMlfaEbohairic kheiNcrossed sheiKyptogrammic eieDgangiaGniCsheiSdaldaEei
Cialect-p alefEhoriEkapaEniMeieDfeiCiCgammaDngiaGhateDoriEiaudaFkapaDheiCiCsiDl-shaped haKaulaFmi
CniCoAld coptic ainDdjaDeshDgangiaGhaAtCeiCoriEoouDsheiCimaMnubian ngiCyiDshimaFwauNouDpiBsiDro
CsampiEheiCimaEimaDouDtauChetheGuaCvidaEzataQymbol kaiChi roGmi roFpi roFshima simaJtaurosHtau ro
Ryleft symbolLright signMralCnish verse dividerSresponds toMuch and lampLnterboreEsink
Ging rod tens digit eightFfiveDourEnineEoneDsevenEixDthreeEwoOunit digit eightFfiveDourEnineEone
DsevenEixDthreeEwoYple with heartPwA faceHrAabCedit cardIscent moonLicketA bat and ballSocodile
GissantGss markEof jerusalemJlorraineLpatty with left crossbarNright crossbarYommee
A with half-circle belowZFed flagsFnegative squared latin capital letter pZOswordsJing lanesLwn
DutchDzeiro signLying cat faceIfaceIstal ballLsiCube rootHcumberGneiform numeric sign eight ash
DdishEgesh2Fshar2FuA variant formOvariant form ussuA3Xlamite fiftyEortyFone thirdJtwo thirds
Sfive ashA tenuIban2A variant formQuruEdishEgesh2BuFshar2BuEixths dishLuA variant formSour ash
A tenuIban2A variant formQuruEdishEgesh2BuFshar2BuFuA variant formOvariant form limmuA aBbC4
YnigidaeshDminHne ashDdishEgesh2Fshar2FuA variant formOvariant form ilimmuA aC3B4
ZAold assyrian one quarterHsixthVne ban2DuruEeighth ashJshe3Fgesh2BuFhalf gurIquarter ashDgurLsharu
Fthird dishEvariant form aYseven ashDdishEgesh2Fshar2FuA variant formOvariant form imin aBbC3
Xhar2 times gal plus dishEminXix ashA tenuIdishEgesh2Fshar2FuA variant formOvariant form ash9
Vthree ashA tenuIban2DuruA variant formRdishEgesh2BuFshar2A variant formOuA variant form
Svariant form esh16C21Xwo ashA tenuIban2DuruEeshe3Fgesh2BuFshar2BuFthirds dishEvariant form a
ZNpunctuation sign diagonal colonFquadcolonJtricolonRold assyrian word dividerZAvertical colon
ZGsign aA times aBbadDgan2 tenuJhaCigiDlagar gunuKmushEsagK2BbA gunuEtimes ash2Edun3 gunuJgal
Bn2 tenuJhaCigi gunuHminElagabFnunA tenuIsheshDu2Eu plus u plus uW2A times aBbalagFgan2 tenu
Jme plus enKsha3Etak4NdA times esh2MkA times erin2Fshita plus gishXlA times alCdim2EgishEhaCkad3Di
CsheDushKanCephEmarA times kugDsheNnA over anHplus naga opposing an plus nagaVsquaredRthree times
MsheEpinDradA times kurMkabEsal2DhA kaba tenuJover ash over ashA crossing ash over ash over ash
ZOtug2 over tug2 tug2 over tug2 papZRzida tenuK2BgabGbaAdA times dish tenuRg3Char2A times ab2DniCza
NlA over balJagDrAa2EiA times aBgarDigi gunuQuA crossing buLover bu abCtimes na2JunLlugA over bulug
OrA2EdaA times tak4LgA kisim5 times a plus mashKmarEbalagEiCgaA plus mashLiAr2DudDhaCirA plus lu
KkakDlaBuA plus mash2LmDneCpap plus papMsiCtak4Eu2 plus gir2EmashLshQtimes kurK3CmBrAa3B4EiAbBm
A times igiDsheDu u uM2A times udLnA kaskal u gunu dishUshA plus shuMuA gunuEover duHsheshigIb
A times esh2EsheK2CgA times ansheEshA at leftLdinCunDerin2FgaBiAr2 gunuHshEhaBiCigi gunuIkaskalFur
Bshu2A plus kaskalSlak-020FmA times kurMuh plus gishNmashDesCiCniCpiCsheCi gunuOudDhBnA3A gunu
A gunuL4Cr2EeA over e nun over nunTtimes papK2A times a plus ha plus daRgarDkurDmiCpapDsalCheDuJdin
DgirDlBnA crossing enLopposing enLsquaredHtimes gan2A tenuJmeKrenCin2A xGsh2A crossing esh2Rzen
A sheshig times ashDhiCigi gunuIlaAlDmeAsDsuQtimes aA plus lalA times lalTnCbadDdun3 gunuA gunuOgud
DhaA gunuHigi gunuIkaskalA squaredNu3DlaAl times lalMiBuCsheCuCu2BdNgaA gunuF2A over ga2
Itimes a plus da plus haKhaCigiJb2 tenu plus tabQnA plus kak plus aRshA2A plus galNbadBhar2
Er plus raKurA plus raLdaBiAm gunuEtimes sheMubBg times igi gunuIkaskalQelA plus laJn
A times gan2 tenuRrenEgaAn2 tenuHrA plus diCneKiA4A plus aIr2 plus suMha plus aBlu plus esh2Sl
A plus laKi plus liJub2Eigi gunuHsh plus hu plus ashUkakBskalFidA plus lalLu3 plus an
Jshu2 plus kaskalSlaAmA times kurMuhDme plus enJiBushEneA plus e2CgiJunA over nunMpaCsalBrChe
A plus turKidBmDumDtak4EuAdA plus duKziz2MbaA crossing gabaNrotated ninety degreesZAd
A over gad gar over garXlA gad over gad gar over garZBamDmBnA2A crossing gan2Nover gan2JtenuHrA3
CshanFe22CshtinA times kurDuOiA crossing giLtimes eBuI4A crossing gi4Mover gi4KdimDgBr2A gunuG3
A times a plus igiKgan2 tenuJigiDlu plus igiLpaLsalChA crossing gishNtenuDimes bad
Dgish crossing gishStak4OuA crossing guM2A gunuEtimes igi gunuIkakA times igi gunuSnun
Dsal plus tug2VdA over gud lugalOplus gish times tak4Utimes a plus kurKkurLlBmA times sheLrA7BunBsh
GhaA gunuEtenuA gunuKlCiA times ashA over hi times ashS2EbadDdishEgadDkinDnunDsheDuJuAb2A times an
ChalDkaskalGlishEudLl2CshEiA aCbBdimA over idim burDsquaredVgAiA dibDgunu
Eover igi shir over shir ud over udZJriFlA times gan2 tenuQ2CmA crossing imLopposing imLsquared
Htimes tak4LinDnBrBshDkaA times aAdA plus ku3KnsheEsh2B3EbadBlagDrCiBuCerin2Esh2EgaAlBn2 tenuHr
A plus sha3 plus aTiAr2CshA crossing gishNplus sarMuAdBr7Ehi times ash2NigiCmCkaAkCiAdDliBuAmDme
A plus duCgiCteJiA plus nunuzNneBunDpaBiCruCsaArChaBeBidCuAlDigCuhurFtarCuCuA u uE2BdBmum times pa
MrA2CshDziJ2A crossing ka2ObBd2B3B4B5A over kad5MkA times igi gunuQlA crossing kalMtimes badLm2B4
Cp elamiteJskalA lagab times u over lagab times uZHover kaskal lagab times u over lagab times u
ZZAesh2EiA times badDuAdJdBnBsalChBim5A over kisim5RuA over hi times ash2 ku over hi times ash2ZQ3
B4A variant formO7BlA gunuGnBrA opposing kurOshu2Fwu318GlaAgabA squaredHtimes aA plus da plus ha
KgarDlalJlBnBsh zida tenuNbadCiCdarDenCgaArCiBudA plus gudMhaAlCi times nunMigi gunuHmA plus haClu
KkiAnCu3BlA plus hi plus aSlagabEishDuAlDmeA plus enJushEneCshe plus sumKita plus gish plus erin2
KtenuSu2A plus shu2NumDtagBk4De plus a plus su plus naZAuA plus aBu plus uO2 plus ashKdBsh
Dzu over zuSrA gunuA over lagar gunu sheYtimes sheA plus sumWhshuEk-003C21B5C30C50B1C62
C79 over lak-079 gunuU80B1 over lak-081P92D130C42D210B9C20B5B8C38C65B6D343B7B8C83B4C90D441B9
A times guCigiDpap plus lu3Dpap plus lu3Vu2 plus baT50B7C70C83C90B2B3B5D550D608C17A times ashDbad
Ddun3 gunu gunuOku3DlaCtarCeCu2BdBrudaO36C48A times dubDgaCigiA gunuIniCpap plus pap plus lu3
Vshesh plus kiNudBrudaP724C49FlA times lalLmA times kurA plus ruUiAlBmmu2EshDuA times badK2
A crossing lu2Mgunu times ashOopposing lu2MsheshigA times badQquaredHtenuDimes alCbadDdishEesh2
A plus lalItenuJgan2 tenuJhalCi times badMimCkad2B3A plus ashMiCla plus ashJgabFme plus enKneBuCpap
A plus pap plus lu3VshuCi plus ashJk2 plus buMtak4Dug2M3BgalA opposing lugalNver lugalKsheshigLhBl
BmA over lumA gar over garZAmaA gunuEtimes tak4L2BhBrBshA2EeAsAhDiA plus za7JnCuA over muIgA gunu
GnsubErgu2EshA crossing mushNover mushA times a plus naJgaCkakTtimes aBkurDzaJ3A gunuEtimes a
A plus diJdiCzaOnaA2B4BgaA invertedIopposing nagaNtimes shu tenuPrDmA nutilluI2DeA sheshigHtimes a
BudKiA times eI2BmA times gan2 tenuHr plus gan2 tenuZBnA9Bda2A times anBshA plus ashMbalDdim gunu
IgiAshDudBlDhiCkesh2Flak-050HmashDe plus gan2 tenuRneBunDpap plus papMsheA plus a anDshA plus ashVu
A plus uH2 plus ashKrudaEshOsagEuA11A over nu11 bur over burWrotated ninety degreesWtenuHn
A crossing nunA lagar over lagarZElagar times garDmashEsalA over nun lagar times salZDushPover nun
ItenuFuzA ab2 times ashgabGbiCdugDgudDigi gunuIkad3ElaCneCsila3Fu2Mkisim5 times biA uXpaAdBnBpCesh2
A asteriskNiA crossing piLtimes aAbCbiBuCeBiAbCuA2Jr2BigA opposing pirigOtimes kalDudCzaOraAbCiBu
CsaAgA gunuA times haNnutilluHover sagItimes aBduAbDenChaCigi gunuIkakCurDlumDmiCnunDsalChe at left
JidEtabBk4Eu2BbBmBrBshLlA lagab times ash2Snga2ErChaA3A times aBbadDgishEneCshu2EturDuA plus aQ6
A tenuGb6Cr2DeA huCover sheA gad over gad gar over garZAtab over tab gar over garZJplus hub2Enam2
EsarJg9CnBshA2BlamGidA times aBimKmA times aBbalCulugFdinDgarDigiA gunuIkushu2GlulDmugDsalLnigDr
A over shir bur over burWtenuGtaDuA over inverted shuS2A plus dug times niMe2 times anSburFiA gunu
Etimes tak4LgA4A over sig4 shu2Rk2Cla3EuA over suIdA2ChurDmAashErA9EtaA asteriskIgunuEtimes hiCmiJb
A over tab ni over ni dish over dishZJsquaredJgA times biCgudDsheBuDtug2EudKk4A plus sagLrCeA gunu
GiA tenuF2BlBrA over tirA gad over gad gar over garZJtimes tak4NuAg2CkBmA times gan2 tenu
Jthree dishSrA over tur za over zaXuA gudDover u pa over pa gar over garXsur over sur
Mu reversed over u reversedZIuA uE2BbBdA gunuEkushu2GsheshigA times badRtimes badDmi
Cu plus u plus uA gunuZCugDmA times lagabFmeA plus daKsha3EuIbinDumA times kaskalGpaMnA gunuGr
A crossing urLsheshigI2A invertedItimes a plus haCnaIlChaCnunDu2A plus ashDbiJdK4BiA3CuA times a
AshgabGbarDdara3EunDgaAlBn2 tenuHrCuChaCigiCmBshDkiClak-668Gu3BmDminDpaCsheCig4EtuCu plus gudJd
BrudaMdaA times uMshA times aBkuArDtak4L2BumxDxDtukiEz3A times kaskalOuDzaA squared times kurRtenu
F7BgBmxDe2CiA over ziI3BbA kaba tenuLgBz2DuA over zu plus sarR5A times aBthree dish tenuXburDm
Qp on black squarePwith strawLcakeEidoErling stoneJy bracket extensionRlogical andDorIop
Hrency exchangeIsignJy and riceLved stem paragraph sign ornamentZIstardDomsFt of meatKyclone
FlindricityKpriot syllable aBeBiBjaBoCkaBeBiBoBuClaBeBiBoBuCmaBeBiBoBuCnaBeBiBoBuCoBpaBeBiBoBuCraBe
BiBoBuCsaBeBiBoBuCtaBeBiBoBuCuBwaBeBiBoCxaBeCzaBoPo-minoan sign cm001B2B4B5B6B7B8B9C10B1B2AbC3B5B7
B9C21B3B4B5B6B7B8B9C30B3B4B5B6B7B8B9C40B1B4B6B7B9C50B1B2B3B4B5B6B8B9C60B1B2B3B4B6B7B8B9C70B1B2B3B4
B5AbC6B8B9C80B1B2B3B4B5B6B7B8B9C90B1B2B4B5B6B7B8B9D100B1B2B3B4B5B7B8B9C10B2B4D301B2
Vrillic capital letter aA with breveFdiaeresisPbkhasian cheA with descenderSdzeDhaLleut kaIbarred o
A with diaeresisVshkir kaJeBig yusFnocular oKlended yusKroad omegaKyelorussian-ukrainian iYccheDhe
A with descenderIiaeresisJvertical strokeXlosed little yusQrossed oJdcheDeBjeArvEouble monocular o
LoHweCzeAloDheCweCzeBheFeA with diaeresisPfBlA with descenderJhookEmiddle hookLtailLmA with tailLn
A with descenderJhookEleft hookJmiddle hookLtailLrA with tickLsA with descenderRfitaEghe
A with descenderJmiddle hookLstrokeA and hookPupturnOjeDhaA with descenderJhookEstrokeMrd signIweDi
A with diaeresisJgraveFmacronMeA with breveFgraveMoAtaBified aBbig yusHclosed little yusRe
Blittle yusKyatLzhitsaA with double grave accentZHjeCkaA with descenderJhookEstrokeGvertical stroke
Whakassian cheNjeComi deBjeCzjeEljeDnjeDsjeDtjeDzjeGppaEsiDlhaCittle yusJjeDmonocular oHgraph uk
Mneutral yerKjeDoA with diaeresisPmegaA with titloPtCpeA with descenderJmiddle hookSsiDqa
Creversed dzeDtseDyuCzeKhaCound omegaLschwaA with diaeresisTemisoft signMhaBchaDhaA with descender
Rort iA with tailLuFweDoft deCelBmCsignItraight uA with strokeWtcheDeA with descenderJmiddle hook
SseBheCseCweDweDuA with diaeresisIouble acuteMmacronMkArainian ieMveCweCyaAeBtCeruA with back yer
IdiaeresisSiBnBuCzeA with descenderIiaeresisPmlyaFheA with breveFdescenderIiaeresisQweKigature a ie
Een gheGte tseXkavykaGletter multiocular oNpalochkaIsmall capital elXpayerokHsmall letter a
A with breveFdiaeresisPbkhasian cheA with descenderSdzeDhaLleut kaIbarred oA with diaeresis
Vshkir kaJeBig yusFnocular oKlended yusKroad omegaKyelorussian-ukrainian iYccheDheA with descender
IiaeresisJvertical strokeXlosed little yusQrossed oJdcheDeBjeArvEouble monocular oLoHweCzeAloDheCwe
CzeBheFeA with diaeresisPfBlA with descenderJhookEmiddle hookLtailLmA with tailLnA with descender
JhookEleft hookJmiddle hookLtailLrA with tickLsA with descenderRfitaEgheA with descender
Jmiddle hookLstrokeA and hookPupturnOjeDhaA with descenderJhookEstrokeMrd signIweDiA with diaeresis
JgraveFmacronMeA with breveFgraveMoAtaBified aBbig yusHclosed little yusReBlittle yusKyatLzhitsa
A with double grave accentZHjeCkaA with descenderJhookEstrokeGvertical strokeWhakassian cheNje
Comi deBjeCzjeEljeDnjeDsjeDtjeDzjeGppaEsiDlhaCittle yusJjeCong-legged deOmonocular oHgraph uk
Mnarrow oHeutral yerKjeDoA with diaeresisPmegaA with titloPtCpalochkaHeA with descenderJmiddle hook
SsiDqaCreversed dzeDtseDyuCzeKhaCound omegaGed veKschwaA with diaeresisTemisoft signMhaBchaDha
A with descenderRort iA with tailLuFweDoft deCelBmCsignItraight uA with strokeWtall hard signJte
CyatHcheDeA with descenderJmiddle hookShree-legged teOseBheCseCweDweDuA with diaeresisIouble acute
MmacronMkArainian ieLnblended ukMveCweBide esHyaAeBtCeruA with back yerIdiaeresisSiBnBuCze
A with descenderIiaeresisPmlyaFheA with breveFdescenderIiaeresisQweKigature a ieEen gheGte tse
Vthousands signXdaggerA knifeFwith left guardKright guardVlet symbolKncerDgoDrk shadeEunglasses
Nsh symbolGwith left upturnRed low lineIoverlineItriangle-headed rightwards arrowZMta link escape
Pc1B2B3B4BsCeaf personJciduous treeKmal exponent symbolPseparator key symbol
ZArease font size symbolXerCgree celsiusHfahrenheitKsignJlAeteDivery truckLta equal to
Mntistry symbol light down and horizontalA with circleGtriangleIwaveZEup and horizontal
A with circleGtriangleIwaveZCvertical and bottom leftErightMtop leftErightJwaveIwith circle
GtriangleZSpartment storeOrelict house buildingVscending nodeMeret capital letter ayCbeeDcheeEdee
DefBlBmBnAgCrBsAhCthCwCgayDhBjeeDkayDlong aAhCeBiBoAoHoiBwCpeeDshort aAhCeBiBoAoIteeCheeEveeDwuCyee
DzeeCheeTsmall letter ayCbeeDcheeEdeeDefBlBmBnAgCrBsAhCthCwCgayDhBjeeDkayDlong aAhCeBiBoAoHoiBwCpee
Dshort aAhCeBiBoAoIteeCheeEveeDwuCyeeDzeeCheeUtA islandKktop computerIwindow
Mvanagari abbreviation signQcute accentMcaretFdandaEigit eightFfiveDourEnineEoneDsevenEixDthreeEwo
DzeroJouble dandaMgap fillerJrave accentMheadstrokeKjain omHletter aAaBiBuBwByCbaBbaChaDcaAndra aBe
BoHhaDdaBdaBdaBhaDhaDhaDeBfaCgaBgaChaBhaDlottal stopMhaBeavy yaIiAiCjaBhaCjaDkaBhaBhaElaBlaBlaEma
Arwari ddaLnaBgaCnaBnaDyaDoAeBoeDpaBhaDqaCraBhaCraDsaBhaBort aBeBoGsaDtaBhaCtaBhaEuAeBuAeDva
Bocalic lAlCrArKyaByaDzaBhaKomCsign anusvaraHvagrahaIcandrabinduA avagrahaIthreeEwoDvirama
Sdouble candrabindu viramaZAhigh spacing dotQinverted candrabinduUnuktaFpushpikaIsiddham
Gpacing candrabinduTviramaEsargaLtress sign anudattaIudattaSvowel sign aaBiBuBwByCcandra eBlong eGo
IeBiAiCoAeBoeDprishthamatra ePshort eBoHuAeBuAeDvocalic lAlCrArZEice control fourEoneDstringGthree
EwoRiaeresisGmeter signJond operatorIshape with a dot insideXtargetGwith bottom half black
Rleft half blackPright half blackQtop half blackZAe face-1B2B3B4B5B6Hsel locomotive
Pfference betweenQgit eightA commaFfull stopPfiveA commaFfull stopNourA commaFfull stopOnineA comma
Ffull stopOoneA commaFfull stopNsevenA commaFfull stopOixA commaFfull stopNthreeA commaFfull stop
OwoA commaFfull stopNzeroA commaFfull stopRram for earthAly heavenFumanNgreater yangDin
Lheavenly earthNuman earthLlesser yangDinTmension originOngbat circled sans-serif digit eightFfive
DourEnineEoneDsevenEixDthreeEwoDzeroKnumber tenZEnegative circled digit eightFfiveDourEnineEone
DsevenEixDthreeEwoJnumber tenKsans-serif digit eightFfiveDourEnineEoneDsevenEixDthreeEwoDzero
Knumber tenZTrect current symbol form twoXhitIsabled carIppointed but relieved faceRface
Ocontinuous underline symbolZCguised faceMtto markIves akuru digit eightFfiveDourEnineEoneDsevenEix
DthreeEwoDzeroJouble dandaMend of text markQgap fillerKinitial raKletter aAaCbaBhaDcaBhaDdaBdaBha
DhaDeBgaBhaDhaCiAiCjaCkaBhaDlaBlaDmaCnaBgaCnaCyaDoBpaBhaDraCsaBhaCsaDtaBhaCtaDuAuCvaCyaByaDza
Jmedial raCyaJprefixed nasal signTsign anusvaraIcandrabinduLhalantaHnuktaKviramaFowel sign aaBiCeBi
AiCoBuAuWidesDng maskHsion signDlashFtimesLorce symbolMya lampHzzy faceEsymbolLleCna double helix
Po not litter symbolScumentA with pictureHtextA and pictureZDdoCes not contain as member
Gnormal subgroupA or equalZKdivideA with reversed negation slashZKforceFprecedeA or equalOove
FsucceedA or equalXgA faceFra abbreviation signRletter aAaBiBuCbaBhaDcaBhaDdaBdaBhaDhaDeBgaBhaDhaCi
AiCjaBhaDkaBhaDlaCmaCnaBgaCnaCyaDoBpaBhaDraBraDsaBhaCsaDtaBhaCtaBhaEuAuCvaCyaJsign anusvaraInukta
FviramaEsargaMvowel sign aaBiBuCeBiAiCoBuAuCvocalic rArZAllar signIphinFmino tile horizontal back
F-00-00B1B2B3B4B5B6E1-00B1B2B3B4B5B6E2-00B1B2B3B4B5B6E3-00B1B2B3B4B5B6E4-00B1B2B3B4B5B6E5-00B1B2B3
B4B5B6E6-00B1B2B3B4B5B6Qvertical backF-00-00B1B2B3B4B5B6E1-00B1B2B3B4B5B6E2-00B1B2B3B4B5B6E3-00B1B2
B3B4B5B6E4-00B1B2B3B4B5B6E5-00B1B2B3B4B5B6E6-00B1B2B3B4B5B6Yng signHorCt aboveFminusFoperatorIplus
Fted circleFrossFfenceFline faceJobelosGright-pointing angleUsolidusGquareGtransposition marker
ZAuble acute accentMcircled digit eightFfiveDourEnineEoneDsevenEixDthreeEwoJnumber tenRolon equal
Kurly loopKdaggerFown tackJexclamation markQhigh-reversed-9 quotation markZEyphenGintegralErsection
Mleft arc greater-than bracketZDogical andDorIw lineF-9 quotation markQreversed-9 quotation mark
ZEnested greater-thanMless-thanA with underbarZFoblique hyphenOplusDrecedesGimeA quotation mark
Uquestion markNright arc less-than bracketZCsolidus operatorPquare intersectionMunionLtacked comma
Lroke not signOubsetEcceedsGpersetGspension markPunionEp tackHvertical barA double left turnstile
Oright turnstileWleft turnstileSlineNwavy overlineO-ended multimapOline equal to or greater-than
Mless-thanVslanted equal to or greater-thanMless-thanVgreater-than or equal to
Yless-than or equal toZJstruck capital cBgammaFhBnBpAiCqBrBzJitalic capital dJsmall dBeBiBj
On-ary summationPsmall gammaFpiQd female signLmale signJsymbolLghnutGve of peaceLwn arrowhead
Jfish tailJright diagonal ellipsisXtackA with circle belowX-pointing red triangle
Msmall red triangleStriangle with left half blackPright half blackZPward facing hookA with dot
Nnotched hookA with dotZEs ancoraFrrowA and right one eighth blockZBfrom bar
Ileftwards of upwards arrowZBto barGwith corner leftwardsQdouble strokeNequilateral arrowhead
Vhorizontal strokeRlarge triangle arrowheadYmedium triangle arrowheadZAnotched tail
Msmall equilateral arrowheadVtriangle arrowheadYtip leftwardsJrightwardsZAblack arrow
Fcircled white arrowZAcompressed arrowQdashed arrowLouble arrowMfinger-post arrow
Rharpoon with barb left beside downwards harpoon with barb rightZIupwards harpoon with barb right
ZNfrom barIto barHwardsJright from barIto barHwardsZCeavy arrowFcompressed arrowWpaired arrows
Nquadruple arrowProcketGsans-serif arrowPquared arrowNtriangle arrowheadK-headed arrow
A leftwards of upwards triangle-headed arrowZRto barGwith bold shaftKdouble horizontal stroke
Yheavy shaftLlong tip leftwardsJrightwardsTmedium shaftMnarrow shaftMvery heavy shaftZCdashed arrow
Mpaired arrowsNzigzag arrowZAple arrowLwo headed arrowN-headed arrow with triangle arrowheads
ZQwhite arrowA within triangle arrowheadZMzigzag arrowVrachma signJfting point rightwards arrow
ZDgonA faceJessDive slow signNomedary camelMoling faceKp of bloodJletFum with drumsticksTuckCmpling
Gployan affix attached e hookGi hookGleft-to-right secantUsecantGtailCngentA hookVhigh acuteFcircle
GdotDgraveFlineDong graveKtight acuteLverticalA secantPwaveJleft horizontal secantVow acuteErrow
FcircleGdotDgraveFlineDong graveKtight acuteLverticalA secantPwaveImid horizontal secant
Rvertical secantTright horizontal secantZEdouble markLletter aAouDbBdA sChCeAeBuCfA nDgA r sFhAlCi
AeCjA mA sDnA sDsA with dotKwith dotAs inside and aboveZDkA mBr sEkClAhBong iBuGmA nA sDsBwith dot
KnA mA sDsBwith dotJasal aBiBoBuHoAaBohCuBwCpA nCernin amBnJrA sChBomanian iBuKsA jA sDkA rDmBnBp
A rDsBtA rDwith dotA belowPhort iGloan anCdhCeeBhBnCjBonBwCuHtA r sDsChCuA nChBiCvAocalic mJwA rCa
BeiChBiBoAwDxAwCyeJpunctuation chinook full stopZEsign o with crossRthick letter selectorZEvd
De-mail symbolMagleDrA of maizeFriceHwith hearing aidRthA globe americasHsia-australia
Oeurope-africaSroundKst syriac crossQditorial coronisQggByptian hieroglyph a001B2B3B4B5AaC6AaBbC7B8
B9C10B1B2B3B4AaC5B6B7AaC8B9C20B1B2B3B4B5B6B7B8B9C30B1B2AaC3B4B5B6B7B8B9C40AaC1B2AaC3AaC4B5AaC6B7B8
B9C50B1B2B3B4B5B6B7B8B9C60B1B2B3B4B5B6B7B8B9C70Da001B2B3B4B5B6B7AaBbC8B9C10B1B2B3B4B5B6B7B8B9C20B1
B2B3B4B5B6B7B8B9C30B1B2Fb001B2B3B4B5AaC6B7B8B9Degin segmentNc001B2AaBbBcC3B4B5B6B7B8B9C10AaC1B2B3B4
B5B6B7B8B9C20B1B2B3B4Ed001B2B3B4B5B6B7B8AaC9C10B1B2B3B4B5B6B7B8B9C20B1B2B3B4B5B6B7AaC8B9C30B1AaC2B3
B4AaC5B6B7B8B9C40B1B2B3B4B5B6AaC7B8AaC9C50AaBbBcBdBeBfBgBhBiC1B2AaC3B4AaC5B6B7B8B9C60B1B2B3B4B5B6B7
AaBbBcBdBeBfBgBhFe001B2B3B4B5B6B7B8AaC9AaD10B1B2B3B4B5B6AaC7AaC8B9C20AaC1B2B3B4B5B6B7B8AaC9C30B1B2
B3B4AaC6B7B8Dnd segmentLf001AaC2B3B4B5B6B7B8B9C10B1B2B3AaC4B5B6B7B8B9C20B1AaC2B3B4B5B6B7B8B9C30B1Aa
C2B3B4B5B6B7AaC8AaC9C40B1B2B3B4B5AaC6AaC7AaC8B9C50B1AaBbBcC2B3Eg001B2B3B4B5B6AaC7AaBbC8B9C10B1AaC2
B3B4B5B6B7B8B9C20AaC1B2B3B4B5B6AaC7B8B9C30B1B2B3B4B5B6AaC7AaC8B9C40B1B2B3AaC4B5AaC6B7B8B9C50B1B2B3
B4Eh001B2B3B4B5B6AaC7B8Dorizontal joinerRi001B2B3B4B5AaC6B7B8B9AaD10AaC1AaC2B3B4B5
Dnsert at bottom endDstartMtop endDstartTk001B2B3B4B5B6B7B8El001B2AaC3B4B5B6AaC7B8Em001AaBbC2B3AaC4
B5B6B7B8B9C10AaC1B2AaBbBcBdBeBfBgBhC3B4B5AaC6AaC7AaC8B9C20B1B2AaC3B4AaC5B6B7B8AaC9C30B1AaC2B3AaBbC4
B5B6B7B8B9C40AaC1B2B3B4En001B2B3B4B5B6B7B8B9C10B1B2B3B4B5B6B7B8AaBbC9C20B1B2B3B4B5AaC6B7B8B9C30B1B2
B3AaC4AaC5AaC6B7AaC8B9C40B1B2Dl001B2B3B4B5AaC6B7B8B9C10B1B2B3B4B5B6B7AaC8B9C20Eu001B2B3B4B5B6B7B8B9
C10AaC1AaC2B3B4B5B6B7B8AaC9C20B1B2AaGo001AaC2B3B4B5AaC6AaBbBcBdBeBfC7B8B9C10AaBbBcC1B2B3B4B5B6B7B8
B9AaD20AaC1B2B3B4AaC5AaC6B7B8B9AaD30AaC1B2B3AaC4B5B6AaBbBcBdC7B8B9C40B1B2B3B4B5B6B7B8B9C50AaBbC1
Dverlay middleOp001AaC2B3AaC4B5B6B7B8B9C10B1Eq001B2B3B4B5B6B7Er001B2AaC3AaBbC4B5B6B7B8B9C10AaC1B2B3
B4B5B6AaC7B8B9C20B1B2B3B4B5B6B7B8B9Es001B2AaC3B4B5B6AaC7B8B9C10B1B2B3B4AaBbC5B6B7AaC8B9C20B1B2B3B4
B5B6AaBbC7B8B9C30B1B2B3B4B5AaC6B7B8B9C40B1B2B3B4B5B6Et001B2B3AaC4B5B6B7AaC8AaC9AaD10B1AaC2B3B4B5B6
AaC7B8B9C20B1B2B3B4B5B6B7B8B9C30B1B2AaC3AaC4B5B6Eu001B2B3B4B5B6AaBbC7B8B9C10B1B2B3B4B5B6B7B8B9C20B1
B2B3AaC4B5B6B7B8B9AaD30B1B2AaC3B4B5B6B7B8B9C40B1B2Ev001AaBbBcBdBeBfBgBhBiC2AaC3B4B5B6B7AaBbC8B9C10
B1AaBbBcC2AaBbC3B4B5B6B7B8B9C20AaBbBcBdBeBfBgBhBiBjBkBlC1B2B3AaC4B5B6B7B8AaC9AaD30AaC1AaC2B3AaC4B5
B6B7AaC8B9C40AaEertical joinerPw001B2B3AaC4B5B6B7B8B9AaD10AaC1B2B3B4AaC5B6B7AaC8AaC9C20B1B2B3B4AaC5
Ex001B2B3B4AaBbC5B6AaC7B8AaFy001AaC2B3B4B5B6B7B8Ez001B2AaBbBcBdC3AaBbC4AaC5AaC6B7B8B9C10B1B2B3B4B5
AaBbBcBdBeBfBgBhBiC6AaBbBcBdBeBfBgBhYight petalled outlined black floretteZGointed black star
Kpinwheel starNrectilinear black starZFspoked asteriskPteardrop-spoked propeller asteriskZKh note
Kject symbolLlbasan letter aBbeCceBheDdeBheDeAiCfeCgeBhammaEeCjeDheCiBjeCkeBheDleBleDmeCnaBdeCeBje
DoBpeCqeCreBreDseBheDteBheDuBveCxeCyBzeBheQectric arrowFlight bulbKplugEtorchGal intersection
Ument ofA opening downwardsJupwardsPwith dot aboveJlong horizontal strokeWoverbar
Htwo horizontal strokesWunderbarIvertical bar at end of horizontal strokeZZDphantFvatorGf
Bymaic letter alephEyinEbethEdalethGgimelFheAthEkaphElamedhGmemDnunDpeCqophEreshEsadheDmekhFhinEtaw
CethEwawDyodhEzayinLigature zayin-yodhZBm dashEquadEspaceGoji component baldEcurly hairKred hair
Iwhite hairUmodifier fitzpatrick type-1-2D3B4B5B6ZGphasis symbolMty documentInestDoteA padBgeJpage
AsFsetA with left arrow aboveQoverbarHright arrow aboveRsmall circle aboveZHn dashEquadEspace
Gd of guarded areaMlineEmediumGproofCtected areaOselected areaNtextDransmissionA block
Vwith leftwards arrow aboveZDqAuiryFter symbolKvelopeA with downwards arrow aboveVlightningWolBmBt
CpaCqual and parallel toPto by definitionNor greater-thanMless-thanJprecedesIsucceedsPs colonFsign
A above leftwards arrowPplus signJrightwards arrowQtilde operatorTnd slanted parallel
A with tilde aboveZMwith bumpy aboveLdot belowJinfinity belowOtwo dots above and two dots below
ZSwith asteriskRiangular toKvalent toCwith four dots aboveZFrase to the leftErightQis form oneDtwo
Lror-barred black circleGdiamondHsquareMwhite circleGdiamondHsquareYsaBcAapeEtimated symbolIsItb
Bhiopic colonDmbining gemination and vowel length markVmarkPvowel length markYmaFdigit eightFfive
DourEnineEoneDsevenEixDthreeEwoJfull stopJnumber eightyGfiftyEortyFhundredHninetyGseventyGixtyFten
A thousandLhirtyFwentyNparagraph separatorSreface colonNquestion markNsection markKmicolon
Iyllable baAaCbaAaCeAeCiBoBuCeAeCiBoAaCuBwaBeAeCiDcaAaCcaAaCeAeChaAaCeAeChaAaCeAeCiBoBuCiBoBuCiBoBu
CeAeChaAaCeAeCiBoAaCuBwaDiBoAaCuBwaDdaAaCdaAaCeAeChaaCeAeCiBoBuCiBoAaCuBwaDeAeCiBoAaCuBwaCzaaCeAeCi
BoBuDfaAaCeAeCiBoBuBwaBeAeCiCyaDgaAaCeAeCgaAaCeAeCiBoBuBwaAaCeAeCiDiBlottal aAaCeAeCiBoAaCuBwaJoAa
CuArage bweeCiDfweeCiDgweAeCiDhhwaEkweAeCiDmweeCiDpweeCiDqweAeCiJwaAaCeAeCiCyaAaCeAeCiBoBuDhaAaCeAe
ChaAaCeAeCiBoBuBwaBeAeCiCyaAaCeAeCiBoBuDiBoAaCuCjaAaCeAeCiBoAaCuBwaDkaAaCeAeCiBoAaCuBwaAaCeAeCiCxa
AaCeAeCiBoBuBwaAaCeAeCiDyaAaCeAeCiBoBuDlaAaCeAeCiBoAaCuBwaDmaAaCeAeCiBoAaCuBwaBeAeCiCyaDnaAaCeAeCi
BoAaCuBwaCyaAaCeAeCiBoAaCuBwaEpaAaCeAeChaAaBryngeal aAaCeAeCiBoBuKeAeCiBoAaCuBwaDiBoAaCuBwaBeAeCi
DqaAaCeAeChaAaCeAeCiBoBuBwaAaCeAeCiDiBoAaCuBwaAaCeAeCiCyaAaCeAeCiBoBuDraAaCeAeCiBoAaCuBwaCyaDsaAaCe
Abatbeit bwaDfwaDmwaDpwaLeChaAaCeAeCiBoAaCuBwaDiBoAaCsaAaCeAeCiBoBuCuBwaCzaAaCeAeCiBoBuBwaEtaAaCeAe
ChaAaCeAeCiBoAaCuBwaDiBoAaCsaAaCeAeCiBoBuBwaDthaaCeAeCiBoBuDuBwaCzaAaCeAeCiBoAaCuDvaAaCeAeCiBoBuBwa
DwaAaCeAeCiBoAaCuCxaAaCeAeCiBoAaCuBwaAaCeAeCiCyaAaCeAeCiBoBuDyaAaCeAeCiBoAaCuCzaAaCeAeChaAaCeAeCiBo
BuBwaDiBoAaCuBwaCzaAaCeAeCiBoBuMtonal mark chiretGderetA-hidetKifatFhidetFkenatEurtErikrik
Gshort rikrikMyizetQwordspaceQxCuler constantMro signF-currency signOpean castleGpost office
Tvergreen treeNxcessDlamation markEquestion markXpressionless faceRtended arabic-indic digit eight
FfiveDourEnineEoneDsevenEixDthreeEwoDzeroZEraterrestrial alienSemely heavy five spoked asterisk
Ugreek crossLsaltireGix spoked asteriskTwhite circleGsquareZCyeAglassesHsEface holding back tears
SmassageHpalmEsavouring delicious foodXcreaming in fearRthrowing a kissPwith cold sweatIwboy hat
Kdiagonal mouthOfinger covering closed lipsZChead-bandageMlook of triumphPmedical maskLonocle
Hno good gesturePok gestureJne eyebrow raisedRpen eyes and hand over mouthYmouthA and cold sweat
OvomitingTparty horn and party hatXeeking eyeKleading eyesNrolling eyesMstuck-out tongue
A and tightly-closed eyesTwinking eyeZHtears of joyLhermometerLuneven eyes and wavy mouth
ZCout mouthPsimile signLtoryFiryDlafelElen leafHing diagonal crossing north east arrow
Qrising diagonalYin white circle in black squareZVmilyErsi symbolKther christmasOx iconEmachine
Kearful faceJtherFmale signIinine ordinal indicatorYncerErris wheelIyEfBield hockey stick and ball
ZAgure dashEspaceKle cabinetHfolderGseparatorLm framesGprojectorMnite part integralSreA engine
FxtinguisherNcrackerHwork sparklerJsGst place medalLquarter moonA symbolGwith faceWstrong isolate
SshA cake with swirl designXeyeDing pole and fishSted hand signOve dot markEpunctuationTlag in hole
JmingoFt shoeFbreadFnessGeur-de-lisJxed bicepsLoppy diskIral heartJwerA playing cards
Munctuation markVushed faceKyAing discEenvelopeIsaucerMogAgyDlderEndueEotAprintsIr allEces
Dk and knifeA with plateVed paragraphosOingEm feedGtune cookieMuntainFr balloon-spoked asterisk
Xclub-spoked asteriskTorner arrows circling anticlockwiseZLdot markEpunctuationPleaf clover
Lpointed black starSteardrop-spoked asteriskZA-per-em spaceNth rootJx faceHraction numerator one
NslashLme with an xEpictureHtilesOeezing faceKnch franc signIiesKied shrimpKog face
Gnt-facing baby chickRtilted shadowed white rightwards arrowZQwnAing face with open mouthZDsAi
Cuel pumpHll blockFmoon symbolGwith faceOouter joinKstopFwidth ampersandIpostropheJsterisk
Ibroken barKcent signIircumflex accentQolonDmmaBercial atNdigit eightFfiveDourEnineEoneDsevenEix
DthreeEwoDzeroJollar signLequals signKxclamation markQfull stopJgrave accentKeater-than sign
Rhyphen-minusMlatin capital letter aBbBcBdBeBfBgBhBiBjBkBlBmBnBoBpBqBrBsBtBuBvBwBxByBz
Qsmall letter aBbBcBdBeBfBgBhBiBjBkBlBmBnBoBpBqBrBsBtBuBvBwBxByBzTeft curly bracketNparenthesis
Lsquare bracketOwhite parenthesisUss-than signNow lineImacronGnot signHumber signLpercent sign
Llus signIound signKquestion markLotation markOreverse solidusOight curly bracketNparenthesis
Lsquare bracketOwhite parenthesisXsemicolonIolidusHtildeFvertical lineNwon signIyen sign
Qnction applicationReral urnJseDvs1B2B3B4Egame dieGrlicFearA with handlesIout hubOm stoneGiniEnie
Dometric proportionLally equal toFivalent toYrgian capital letter aenCnCbanDcanCharCinDilDdonDen
CganChanEhaeBrCeBieCoeDinCjhanDilDkanCharElasDmanDnarDonCparCharEqarDraeDsanChinEtanBrDunCvinDwe
CxanDynCzenCharTletter aenCinCnCbanDcanCharCinDilDdonDelifiEnCfiCganChanEhaeBrAd signIeBieCoeDin
CjhanDilDkanCharElabial signJsDmanDnarDonCparCharEqarDraeDsanChinEtanBrCurned ganKunCvinDweCxanDyn
CzenCharLmtavruli capital letter aenCinCnCbanDcanCharCinDilDdonDelifiEnCfiCganChanEhaeBrAd signIe
BieCoeDinCjhanDilDkanCharElabial signJsDmanDnarDonCparCharEqarDraeDsanChinEtanBrCurned ganKunCvin
DweCxanDynCzenCharZDparagraph separatorTsmall letter aenCnCbanDcanCharCinDilDdonDenCganChanEhaeBrCe
BieCoeDinCjhanDilDkanCharElasDmanDnarDonCparCharEqarDraeDsanChinEtanBrDunCvinDweCxanDynCzenChar
Yrman penny signPta markIhostEimel symbolKraffe faceJlAs symbolLlagolitic capital letter azu
Dbig yusGukyEcaudate chriviNhriviGdjerviFobroEzeloFfitaDrituFglagoliHheruEiAnitial izhe
Lotated big yusHsmall yusQzheBitsaHkakoElatinate myslitePjudijeHmysliteHnashiFonuCtuDpeBokojiGritsi
FshaBtaApicGlovoEmall yusA with tailSpidery haKtrokutasti aLsiCvridoGukuDvedeEyatiDeriBuCstuEoBu
CzemljaFhiveteWsmall letter azuDbig yusGukyEcaudate chriviNhriviGdjerviFobroEzeloFfitaDrituFglagoli
HheruEiAnitial izheLotated big yusHsmall yusQzheBitsaHkakoElatinate myslitePjudijeHmysliteHnashi
FonuCtuDpeBokojiGritsiFshaBtaApicGlovoEmall yusA with tailSpidery haKtrokutasti aLsiCvridoGukuDvede
EyatiDeriBuCstuEoBuCzemljaFhiveteZDss of milkLeich starkKobe with meridiansRvesDwing starLoal netFt
CgglesFlferErillaFthic letter ahsaDihvusGbairkanHdagsEeisDfaihuFgibaEhaglDwairFiggwsEujaEjerDkusma
FlagusFmannaFnauthsFine hundredItyGothalFpairthraIqairthraIraidaFsauilFteiwsEhiuthGurusEwinja
Sraduation capLntha au length markOletter aAaBiBuCbaBhaDcaBhaDdaBdaBhaDhaDeeCgaBhaDhaCiAiCjaBhaDka
BhaDlaBlaDmaCnaBgaCnaCyaDooCpaBhaDraCsaBhaCsaDtaBhaCtaBhaEuAuCvaBedic anusvaraIdouble anusvara
Uocalic lAlCrArKyaJomCsign anusvaraHvagrahaIcandrabinduKombining anusvara aboveYnuktaFplutaFvirama
EsargaMvowel sign aaBiBuCeeCiAiCooCuAuCvocalic lAlCrArZBpesDve accent
Keater-than above double-line equal above less-thanZIless-than above double-line equal
ZIrightwards arrowQsimilar above less-thanPor equal
Planted equal above less-than above slanted equalZZEnd not approximatePsingle-line not equal to
ZDbeside less-thanPut not equal toFivalent toVclosed by curveA above slanted equal
ZKequal to or less-thanVor approximateLequal toFivalent toNless-thanJslanted equal to
A with dot aboveA leftKinsideZJver equal toJlapping less-thanVsignEwith circle insideNdot
Dquestion mark aboveZJek acrophonic attic fiftyA statersHtalentsGhousandA statersUveA hundred
A statersHtalentsPstatersHtalentsGhousandA talentsVone drachmaHhalfDundred statersHtalentsPquarter
Hthousand statersHtalentsUten mnasEstatersHtalentsGhousand statersZBcarystian five hundred
Vyrenaic two drachmasVdelphic five mnasRepidaurean five hundredMtwoA drachmasXheraeum one plethron
Rmionian fiftyFoneDtenOmessenian tenNnaxian five hundredTstratian fifty mnasTthespian fifty
Dve hundredHthousandNoneA hundredHthousandMtenChirtyEree hundredMwoLroezenian fiftyA alternate form
SveA hundredMtenA alternate formZOno teleiaJroura signJtabe signLbeta symbol
Lcapital dotted lunate sigma symbolZBkai symbolKletter alphaA with dasiaA and oxia
A and prosgegrammeniXperispomeniA and prosgegrammeniZErosgegrammeniOvariaA and prosgegrammeni
ZJmacronGoxiaEprosgegrammeniNsiliA and oxiaA and prosgegrammeniXperispomeniA and prosgegrammeni
ZErosgegrammeniOvariaA and prosgegrammeniZJtonosFvariaErachyQrchaic sampiNbetaEchiDdeltaFepsilon
A with dasiaA and oxiaEvariaPoxiaEpsiliA and oxiaEvariaPtonosFvariaRtaA with dasiaA and oxia
A and prosgegrammeniXperispomeniA and prosgegrammeniZErosgegrammeniOvariaA and prosgegrammeniZJoxia
EprosgegrammeniNsiliA and oxiaA and prosgegrammeniXperispomeniA and prosgegrammeniZErosgegrammeni
OvariaA and prosgegrammeniZJtonosFvariaOgammaFhetaEiotaA with dasiaA and oxiaEperispomeniLvaria
OialytikaJmacronGoxiaEpsiliA and oxiaEperispomeniLvariaPtonosFvariaErachyQkappaFlamdaFmuCnuComega
A with dasiaA and oxiaA and prosgegrammeniXperispomeniA and prosgegrammeniZErosgegrammeniOvaria
A and prosgegrammeniZJoxiaEprosgegrammeniNsiliA and oxiaA and prosgegrammeniXperispomeni
A and prosgegrammeniZErosgegrammeniOvariaA and prosgegrammeniZJtonosFvariaOicronA with dasia
A and oxiaEvariaPoxiaEpsiliA and oxiaEvariaPtonosFvariaSpamphylian digammaRhiCiBsiDrhoA with dasia
OsanChoCigmaFtauChetaFupsilonA with dasiaA and oxiaEperispomeniLvariaOialytikaJmacronGoxiaEtonos
FvariaErachyTxiCyotDzetaKunate sigma symbolTreversed dotted lunate sigma symbol
ZBlunate sigma symbolZDtheta symbolUdasiaA and oxiaEperispomeniLvariaOialytika and oxiaEperispomeni
LvariaJtonosOrachma signMfive obols signOour obols signPgramma signLindiction sign
Mstrumental notation symbol-1A1B2B3B4B7B8B9C2A3B4B5B6B7B9C30B2B6B7B8B9C4A0B2B3B5B7B8B9C5A0B1B2B3B4
C7B8ZFkai symbolIppa symbolLoronisGyathos base signRletter archaic koppaNdigammaHkoppaFsampi
Emall capital gammaFlamdaFomegaFpiBsiDrhoQtigmaGyotJitra signJower numeral sign
Runate epsilon symbolOsigma symbolTmetretes signMusical leimmaOnumeral signMobol signIne half sign
A alternate formYquarter signPunkia signKxiaEperispomeniKhi symbolJi symbolIrosgegrammeniNsili
A and oxiaEperispomeniLvariaPquestion markNreversed lunate epsilon symbolZEho symbol
Gwith stroke symbolWsinusoid signMmall dotted lunate sigma symbolZBletter alphaA with dasia
A and oxiaA and ypogegrammeniWperispomeniA and ypogegrammeniZEvariaA and ypogegrammeni
XypogegrammeniXmacronGoxiaA and ypogegrammeniWperispomeniA and ypogegrammeniZDsiliA and oxia
A and ypogegrammeniWperispomeniA and ypogegrammeniZEvariaA and ypogegrammeniXypogegrammeniXtonos
FvariaA and ypogegrammeniWrachyGypogegrammeniXrchaic koppaFsampiNbetaEchiDdeltaEigammaHepsilon
A with dasiaA and oxiaEvariaPoxiaEpsiliA and oxiaEvariaPtonosFvariaRtaA with dasiaA and oxia
A and ypogegrammeniWperispomeniA and ypogegrammeniZEvariaA and ypogegrammeniXypogegrammeniXoxia
A and ypogegrammeniWperispomeniA and ypogegrammeniZDsiliA and oxiaA and ypogegrammeniWperispomeni
A and ypogegrammeniZEvariaA and ypogegrammeniXypogegrammeniXtonosFvariaA and ypogegrammeni
XypogegrammeniWfinal sigmaLgammaFhetaEiotaA with dasiaA and oxiaEperispomeniLvariaOialytika
A and oxiaEperispomeniLtonosFvariaTmacronGoxiaEperispomeniKsiliA and oxiaEperispomeniLvariaPtonos
FvariaErachyQkappaEoppaFlamdaFmuCnuComegaA with dasiaA and oxiaA and ypogegrammeniWperispomeni
A and ypogegrammeniZEvariaA and ypogegrammeniXypogegrammeniXoxiaA and ypogegrammeniWperispomeni
A and ypogegrammeniZDsiliA and oxiaA and ypogegrammeniWperispomeniA and ypogegrammeniZEvaria
A and ypogegrammeniXypogegrammeniXtonosFvariaA and ypogegrammeniXypogegrammeniWicronA with dasia
A and oxiaEvariaPoxiaEpsiliA and oxiaEvariaPtonosFvariaSpamphylian digammaRhiCiBsiDrhoA with dasia
FpsiliOsampiDnChoCigmaEtigmaGtauChetaFupsilonA with dasiaA and oxiaEperispomeniLvariaOialytika
A and oxiaEperispomeniLtonosFvariaTmacronGoxiaEperispomeniKsiliA and oxiaEperispomeniLvariaPtonos
FvariaErachyTxiCzetaLreversed dotted lunate sigma symbolZBlunate sigma symbol
ZIubscript small letter betaEchiDgammaFphiDrhoZAymbol tau rhoOtalent signKheta symbol
Kree obols signKquarters signSonosEryblion base signRwo obols signKthirds sign
Pupsilon with acute and hook symbolVdiaeresis and hook symbolZAhook symbolYvaria
Eocal notation symbol-1A0B1B2B3B4B5B6B7B8B9C2A0B1B2B3B4C3B4B5A0B1B2B3B4C6B7B8B9Xxestes sign
Lyear signIpogegrammeniNzero signLn appleFbookEheartFsaladJimacing face
Lnning cat face with smiling eyesZBfaceA with one large and one small eyeZCsmiling eyesLtar eyes
ZBoup markEseparatorMwing heartMsBuarani signIdsmanHide dogGtarEjarati abbreviation sign
Rdigit eightFfiveDourEnineEoneDsevenEixDthreeEwoDzeroKletter aAaBiBuCbaBhaDcaBhaDdaBdaBhaDhaDeBga
BhaDhaCiAiCjaBhaDkaBhaDlaBlaDmaCnaBgaCnaCyaDoBpaBhaDraCsaBhaCsaDtaBhaCtaBhaEuAuCvaBocalic lAlCrAr
KyaCzhaKomCrupee signKsign anusvaraHvagrahaIcandrabinduKircle nukta aboveSmaddahGnuktaFshaddaFukun
Fthree-dot nukta aboveUwo-circle nukta aboveWviramaEsargaMvowel candra eBoIsign aaBiBuCcandra eBoIe
BiAiCoBuAuCvocalic lAlCrArZDnjala gondi digit eightFfiveDourEnineEoneDsevenEixDthreeEwoDzero
Kletter aAaBiBuCbaBhaDcaBhaDdaBdaBhaDhaDeeCgaBhaDhaCiAiCjaBhaDkaBhaDlaBlaDmaCnaBgaDooCpaBhaDraCsa
CtaBhaCtaBhaEuAuCvaCyaJomCsign anusvaraIvisargaMviramaFowel sign aaBiBuCeeCiAiCooCuAu
ZArmukhi abbreviation signQddakFdigit eightFfiveDourEnineEoneDsevenEixDthreeEwoDzeroKek onkarIiri
Dletter aAaBiBuCbaBhaDcaBhaDdaBdaBhaDhaDeeCfaCgaBhaBhaEhaCiAiCjaBhaDkaBhaBhaElaBlaDmaCnaBgaCnaCya
DooCpaBhaDraBraDsaBhaDtaBhaCtaBhaEuAuCvaCyaCzaJsign adak bindiKbindiFnuktaFudaatFviramaEsarga
HyakashLtippiFuraDvowel sign aaBiBuCeeCiAiCooCuAuWhadesDir spaceGcutFlfwidth black square
Mdownwards arrowPforms light verticalUhangul fillerGletter aAeCchieuchGieucFeAoBuChieuhFiAeung
FkhieukhGiyeokA-siosLmieumFnieunA-cieucFhieuhLoAeCphieuphGieupA-siosKrieulA-hieuhFkiyeokGmieum
FphieuphGieupFsiosEthieuthNsiosDsangcieucFkiyeokGpieupFsiosEtikeutLthieuthGikeutGuBwaAeCeAoCiCyaAe
CeAoCiBoBuQideographic commaFfull stopVkatakana letter aBeBhaBeBiBoBuCiBkaBeBiBoBuCmaBeBiBoBuCnAaBe
BiBoBuCoBraBeBiBoBuCsaBeBiBmall aBeBiBoBtuCuByaBoBuHoBuCtaBeBiBoBuCuBwaBoCyaBoBuJmiddle dot
Ksemi-voiced sound markWvoiced sound markS-hiragana prolonged sound markZNleft corner bracket
Pwards arrowPright corner bracketPwards arrowQupwards arrowNwhite circleUmburgerGmerA and pick
EsickleGwrenchOsaBter faceKnd with index and middle fingers crossedZBfinger and thumb crossedZLbag
BllEshakeGgul choseong ceongchieumchieuchGieucFsiosDsangcieucFsiosThieuchA-hieuhFkhieukh
MtueumchieuchGieucFsiosDsangcieucFsiosQieucA-ieungLfillerGhieuhA-siosKieungA-chieuchGieucFhieuh
FkiyeokGmieumFpansiosGhieuphGieupFrieulFsiosEthieuthGikeutMkapyeounmieumFphieuphGieupFrieul
FssangpieupRhieukhGiyeokA-tikeutNmieumA-kiyeokGpieupFsiosEtikeutMnieunA-cieucFhieuhFkiyeokGpieup
FsiosEtikeutMpansiosGhieuphA-hieuhFpieupMieupA-chieuchGieucFhieuhFkhieukhGiyeokGnieunFphieuphHsios
A-cieucFkiyeokGpieupFthieuthGikeutKsangsiosJthieuthGikeutMrieulA-cieucFhieuhFkapyeounpieupMhieukh
GiyeokGmieumFnieunFpieupFsiosDsangkiyeokGpieupFtikeutLtikeutMsiosA-chieuchGieucFhieuhFieungFkhieukh
GiyeokGmieumFnieunFphieuphGieupA-kiyeokMrieulFssangsiosJthieuthGikeutKsangcieucA-hieuhLhieuhFieung
FkiyeokGnieunFpieupFrieulFsiosA-pieupKthieuthGikeutGyeorinhieuhQthieuthGikeutA-cieucFkiyeokGmieum
FpieupFrieulFsiosLyeorinhieuhJsieungRdouble dot tone markUfillerGjongseong chieuchGieucA-pieup
FssangpieupQhieuhA-mieumFnieunFpieupFrieulLieungA-khieukhGiyeokGssangkiyeokRkapyeounmieumFphieuph
GieupFrieulMhieukhGiyeokA-chieuchHhieuhFkhieukhHnieunFpieupFrieulFsiosA-kiyeokSmieumA-chieuchGieuc
FhieuhFkiyeokGnieunFpansiosGieupA-siosKrieulFsiosDsangnieunFsiosPnieunA-chieuchGieucFhieuhFkiyeok
GpansiosHrieulFsiosEthieuthGikeutMpansiosA-kapyeounpieupNpieupMhieuphA-pieupFsiosEthieuthOieup
A-chieuchGieucFhieuhFmieumFphieuphHrieulA-phieuphNsiosA-tikeutLtikeutMrieulA-hieuhFkapyeounpieup
MhieukhGiyeokA-hieuhFsiosLmieumA-hieuhFkiyeokGsiosKnieunFpansiosGhieuphGieupA-hieuhFphieuphHsios
EtikeutMsiosDsangkiyeokGsiosJthieuthGikeutA-hieuhMyeorinhieuhA-hieuhPsieungOsiosA-chieuchGieuc
FhieuhFkapyeounpieupMiyeokGmieumFpansiosGieupFrieulFthieuthGikeutKsangcieucFieungFkiyeokGmieum
FnieunFpieupFrieulA-khieukhNsiosA-kiyeokGtikeutLtikeutA-pieupMyesieungNthieuthGikeutA-chieuchGieuc
FkiyeokGpieupFrieulFsiosA-kiyeokLthieuthOyeorinhieuhJsieungA-hieuhFkhieukhGiyeokGmieumFpansiosHsios
DsangkiyeokZEungseong aA-euCoBuCeBraeaA-aBeAoCiBuHeAoA-euCoBuDuA-aBeAoBuCoBuEfillerGiA-aAraeaFeuCi
BoA-iDuByaA-oCeCeAoCoBuEoA-eAoCoA-iDuByaAeCeAoEeCssangaraeaKuA-aAeCeo-euFi-iDuByeAoFwaAeCeAoCiCya
A-oBuByoDeCeAoA-oBuByaFiA-uDoA-aAeCeoCiBoByaAeCeoFuA-aAeCeAoCiBoBuByeAoQletter aAeBraeaAeGchieuch
GieucFeAoBuChieuhFiAeungFkapyeounmieumFphieuphGieupFssangpieupRhieukhGiyeokA-siosLmieumA-pansios
GieupFsiosKnieunA-cieucFhieuhFpansiosHsiosEtikeutMoAeCpansiosGhieuphGieupA-cieucFkiyeokGsios
A-kiyeokGtikeutLthieuthGikeutMrieulA-hieuhFkiyeokA-siosLmieumFpansiosGhieuphGieupA-siosKsios
EthieuthGikeutGyeorinhieuhRsiosA-cieucFkiyeokGnieunFpieupFtikeutKsangcieucFhieuhFieungFkiyeokGnieun
FpieupFsiosEtikeutLthieuthGikeutGuBwaAeCeAoCiCyaAeCeAoArinhieuhJsieungA-pansiosHsiosMiBoA-iByaAeFu
A-iByeAoNsingle dot tone markXzhou numeral eightFfiveDourEnineEoneDsevenEixDtenChirtyEreeEwentyEo
Rifi rohingya digit eightFfiveDourEnineEoneDsevenEixDthreeEwoDzeroKletter aBbaCcaCdaBdaDfaCgaChaCja
CkaBhaCinna waCyaIlaCmaCnaBgaCyaDpaCraBraDsaBhaDtaBtaDvaCwaCyaCzaJmark na khonnaJsakin
Ksign harbahayItahalaEnaCssiKvowel aBeBiBoBuUunoo letter aBbaCdaCgaChaCiBkaClaCmaCnaBgaDpaCraCsaCta
CuBwaCyaJsign pamudpodNvowel sign iBuSppy person raising one handZCrd diskHtching chick
Lran letter alephEynDbethEdaleth-reshLgimelFheAthEkaphElamedhGmemDnunDpeCqophEsadheDmekhFhinEtaw
CethEwawDyodhEzaynLnumber fiveEoneA hundredLtenCwentyTeadphoneFstoneA graveyard symbol
Xr-no-evil monkeyPt decorationKhandsFwith arrowFribbonGtip on the leftXvy ampersand ornament
Rrrow shaft width oneA halfEthirdJtwo thirdsZCsteriskIballot x
Hlack curved downwards and rightwards arrowZFupwards and rightwards arrowZKheart
G-feathered north east arrowQrightwards arrowQsouth east arrowZHcheck markHvron snowflakeQircle
A with circle insideNstroke and two dots aboveZGd saltireOoncave-pointed black rightwards arrow
ZNdashed triangle-headed rightwards arrowZNivision signMollar sign
Juble comma quotation mark ornamentZEturned comma quotation mark ornament
ZQwnwards arrow with equilateral arrowheadVlarge equilateral arrowheadZXeight pointed black star
Kpinwheel starNrectilinear black starZFspoked asteriskPteardrop-spoked propeller asterisk
ZOquals signKxclamation mark ornamentIsymbolXfive pointed black starSspoked asterisk
Tour balloon-spoked asteriskZDgreek crossLheart exclamation mark ornamentZForizontal fill
Pinterrobang ornamentUlarge circleKtin crossKeft-pointing angle bracket ornament
Qquotation mark ornamentZOwards arrow with equilateral arrowheadVlarge equilateral arrowhead
ZWigature open et ornamentYow double comma quotation mark ornament
ZLsingle comma quotation mark ornamentZMer right-shadowed white rightwards arrowZSminus sign
Jultiplication xQnorth east arrowFpointing budDvine leafXwest pointing budDvine leaf
ZEopen centre crossQutlined black starSval with oval insideVplus sign
Jright-pointing angle bracket ornamentQquotation mark ornamentZOwards arrow
A with equilateral arrowheadVlarge equilateral arrowheadZXound-tipped rightwards arrowZEsaltire
Fns-serif interrobang ornamentZFcript ligature et ornamentZBingle comma quotation mark ornament
ZEturned comma quotation mark ornamentZQx pointed black starSspoked asteriskSouth east arrow
Fpointing budDvine leafXwest pointing budDvine leafZDparkleHteardrop-shanked rightwards arrow
Xpoked asteriskIpinwheel asteriskZHriangle-headed rightwards arrowZGwelve pointed black star
Kpinwheel starZDupper right-shadowed white rightwards arrowZQwards arrow with equilateral arrowhead
Vlarge equilateral arrowheadZVvertical barMwedge-tailed rightwards arrowZDhite circle
Gdown-pointing triangleWsquareLide-headed rightwards arrowZHbrew accent atnah hafukhMdargaEehi
EetnahtaHgereshA muqdamKshayimJiluyEmahapakhHerkhaA kefulaMunahFoleDpashtaEzerFqadmaDrney para
LreviaFsegolEhalsheletKtelisha gedolaGqetanaMvirEipehaGyerah ben yomoMtivFzaqef gadolFqatanJrqa
EinorMletter alefA with mapiqFpatahFqamatsOternative ayinEplus signUyinEbetA with dageshGrafeNdalet
A with dageshRfinal kafA with dageshPmemDnunDpeA with dageshOtsadiLgimelA with dageshRhe
A with mapiqLtDkafA with dageshGrafeNlamedA with dageshRmemA with dageshPnunA with dageshPpe
A with dageshGrafeMqofA with dageshPreshA with dageshQsamekhA with dageshRhinA with dagesh
A and shin dotHin dotSshin dotHin dotRtavA with dageshOetA with dageshOsadiA with dageshRvav
A with dageshGholamOwide alefEdaletFfinal memJheCkafDlamedFreshEtavIyodA with dageshGhiriqOzayin
A with dageshXigature alef lamedKyiddish double vavDyodKvav yodHyod yod patahZFmark lower dot
Jmasora circleNupper dotOpoint dagesh or mapiqPhataf patahFqamatsGsegolKiriqEolamA haser for vav
Tjudeo-spanish varikaUmetegFpatahFqamatsA qatanLubutsGrafeEsegolEhevaDin dotHin dotHtsere
Kunctuation gereshDshayimJmaqafFnun hafukhaLpaseqFsof pasuqVyod triangleRdgehogGlicopter
Hlschreiber pause symbolXm symbolHet with white crossVntaigana letter a-1B2B3BwoEe-1B2B3B4B5B6Dha-1
A0B1C2B3B4B5B6B7B8B9De-1B2B3B4B5B6B7Di-1B2B3B4B5B6B7Do-1B2B3B4B5B6B7B8Du-1B2B3Ei-1B2B3B4Dka-1A0B1C2
B3B4B5B6B7B8B9BkeEe-1B2B3B4B5B6Di-1B2B3B4B5B6B7B8Do-1B2B3BkiEu-1B2B3B4B5B6B7Ema-1B2B3B4B5B6B7De-1B2
BmaEi-1B2B3B4B5B6B7Do-1B2B3B4B5B6Du-1B2B3B4En-mu-mo-1B2Ia-1B2B3B4B5B6B7B8B9De-1B2B3B4B5B6BkoEi-1B2
B3B4B5B6B7BteEo-1B2B3B4B5Du-1B2B3Eo-1B2B3Dra-1B2B3B4De-1B2B3B4Di-1B2B3B4B5B6B7Do-1B2B3B4B5B6Du-1B2
B3B4B5B6Esa-1B2B3B4B5B6B7B8De-1B2B3B4B5Di-1B2B3B4B5B6Do-1B2B3B4B5B6B7Du-1B2B3B4B5B6B7B8Eta-1B2B3B4
De-1B2B3B4B5B6B7B8B9Di-1B2B3B4B5B6B7Do-1B2B3B4B5B6BraEu-1B2B3B4BtoFu-1B2B3B4B5Dwa-1B2B3B4B5De-1B2B3
B4Di-1B2B3B4B5Do-1B2B3B4B5B6B7Eya-1B2B3B4B5ByoEo-1B2B3B4B5B6Du-1B2B3B4UrbBmitian conjugate matrix
Yxagram for abundanceIfter completionPpproachIbefore completionQiting throughNreakthrough
Mcoming to meetMnflictFtemplationNdarkening of the lightVecreaseGliveranceJvelopment
Kifficulty at the beginningZAspersionJurationIenthusiasmKfellowshipJollowingJgathering together
RraceDeat possessionIwerEreponderanceNtamingMholding togetherQincreaseGfluenceHner truthIocence
JlimitationKmodestyFuth cornersNobstructionKppositionHressionKpeaceErogressHushing upwardOretreat
EurnEvolutionKsmall preponderanceNtamingLplitting apartOtandstillKthe abysmal waterMrmy
Cousing thunderQcauldronHlinging fireMreative heavenPfamilyGgentle windLjoyous lake
Lkeeping still mountainWmarrying maidenPreceptive earthPwandererHellHreadingIwaiting
Gork on the decayedTyouthful follyZBibiscusGgh brightness symbolRoctet presetMvoltage sign
N-heeled shoeLspeed trainA with bullet noseZGking bootJndu templeKppopotamusKragana digraph yori
Miteration markOletter aArchaic wuCyeKbaBeBiBoBuCdaBeBiBoBuCeBgaBeBiBoBuChaBeBiBoBuCiBkaBeBiBoBuCma
BeBiBoBuCnAaBeBiBoBuCoBpaBeBiBoBuCraBeBiBoBuCsaBeBiBmall aBeBiBkaBeCoBtuCuBwaBeBiBoCyaBoBuHoBuCtaBe
BiBoBuCuBvuCwaBeBiBoCyaBoBuCzaBeBiBoBuJvoiced iteration markZDstoric siteMochoDle
Blow quilt square ornamentA in black squareZRmotheticIney potEbeeGokCpBrizontal barClack hexagon
HoctagonNellipsisIline extensionOmale with stroke signVone eighth block-1358E2B3B4B5B6B7
Sscan line-1B3B7B9Ltab keyEulationA setDwith justificationZDraffic lightVseA faceEracingKspital
Gt beverageIdogDpepperGspringsIelDurglassA with flowing sandYseA buildingAsJwith gardenQryvnia sign
LtAjBsCugging faceKndred points symbolTshed faceJtCygieaEphenA bulletGwith diaeresisP-minus
Gation pointOodiastoleKsteresis symbolRi love you hand signTce creamEubeEhockey stick and puck
VskateIdentical toA and slanted parallelXwith dot aboveSfication card
Qographic annotation bottom markLearth markKfirst markJour markFth markLheaven markLlinking mark
Mman markHiddle markLone markIreverse markMsecond markLthird markIree markJop markHwo mark
Tclosing markLommaFdeparting tone markRscription character above to belowFmiddle and below
ZAfull surroundNleft to middle and rightQrightNoverlaidIsurround from aboveFbelowFleftDower left
Kupper leftErightZWentering tone markSfull stopJhalf fill spacePiteration markOlevel tone mark
Pnumber zeroLrising tone markQspaceFtally mark fiveDourEoneDthreeEwo
Nelegraph line feed separator symbolZBsymbol for aprilEugustGday eightAeenHlevenGfifteenFveDour
AteenInineAteenIoneDsevenAteenIixAteenHtenChirteenDyA-oneIreeEwelveDntyA-eightFfiveDourEnineEone
DsevenEixDthreeEwoIoGecemberIfebruaryIhour eightAeenHlevenGfifteenFveDourAteenInineAteenIoneDseven
AteenIixAteenHtenChirteenGreeEwelveDntyA-fourEoneDthreeEwoIoDzeroJjanuaryGulyCneEmarchDyDnovember
IoctoberHseptemberZFvariation indicatorZFmage ofA or approximately equal toZHp
Aerial aramaic letter alephEyinEbethEdalethGgimelFheAthEkaphElamedhGmemDnunDpeCqophEreshEsadheDmekh
FhinEtawCethEwawDyodhEzayinMnumber oneA hundredHthousandMtenA thousandLhreeEwentyEoKsection sign
ZDnbox trayIcoming envelopeMplete infinityQrease font size symbolRs asHmentHdAex
A pointing at the viewerZAian rupee signNc siyaq alternate lakh markTfraction one halfEquarter
Lthree quartersXlakh markJnumber alternate oneDten thousandLwoNeightA hundredHthousandJyA thousand
PfiftyA thousandMveA hundredHthousandMortyA thousandMurA hundredHthousandNkarorAanHlakhAanGnine
A hundredHthousandJtyA thousandPoneA hundredHthousandMprefixed eightFfiveDourEnineEoneDsevenEix
DthreeEwoMsevenA hundredHthousandJtyA thousandPixA hundredHthousandJtyA thousandOtenA thousand
LhirtyA thousandNreeA hundredHthousandNwentyA thousandNoA hundredHthousandTplaceholderLrupee mark
UfinityA negated with vertical barZGormation desk personLseparator fourEoneDthreeEwoMource
Qhibit arabic form shapingTsymmetric swappingYput symbol for latin capital lettersPletters
Hsmall lettersTnumbersHsymbolsWscriptional pahlavi letter alephFbethEdalethGgimelFheAthEkaphElamedh
Gmem-qophInunDpeCsadheDmekhFhinEtawCethEwaw-ayin-reshNyodhEzayinMnumber fourEoneA hundredHthousand
MtenChreeEwentyEoQrthian letter alephEyinEbethEdalethGgimelFheAthEkaphElamedhGmemDnunDpeCqophEresh
EsadheDmekhFhinEtawCethEwawDyodhEzayinMnumber fourEoneA hundredHthousandMtenChreeEwentyEo
ZFertion symbolOtegralA around a point operatorWverage with slashSextensionJwith double stroke
NintersectionMleftwards arrow with hookZAoverbarHtimes signKunderbarGionPrcalateGior product
Llinear annotation anchorGseparatorJterminatorZCocked female and male signZCrobangGsection
A above bar above unionPunionLbeside and joined with intersectionZKwith dotDlogical andLoverbar
Xverse bulletGcheck markFer board fillSdownwards arrow with tip leftwardsZJmedium shade
Mwhite circlePted exclamation markQinterrobangLlazy sFow kavykaA with kavyka aboveZDohm sign
IpentagramJquestion markNundertieOisible plusEseparatorJtimesOzakaya lanternPjack-o-lantern
Mpanese bank symbolLcastleGdollsFgoblinGindustrial standard symbolZBogreEpost office
Lsymbol for beginnerZBrBvanese consonant sign cakraFkeretFpengkalWdigit eightFfiveDourEnineEone
DsevenEixDthreeEwoDzeroKleft rerengganMtter aAiCbaA murdaIcaA murdaIdaA mahapranaLdaA mahapranaNe
BgaA murdaIhaCiA kawiFiCjaA mahapranaMkaA murdaFsasakIlaCmaCnaA murdaHgaA leletA raswadiQyaA murda
JoBpaA cerekFmurdaIraA agungIsaA mahapranaIurdaItaA murdaHtaA mahapranaNuBwaCyaJpada adegA adeg
IndapFisen-isenJlingsaFuhurDngsiGmadyaFpangkatGiselehHtirta tumetesNwinduIngkonDrangkep
Lright rerengganPsign cecakA teluKlayarFpanyanggaJwignyanMturned pada piselehTvowel sign dirga mure
KpepetFsukuA mendutLtalingErungFolongGwuluA melikZEeansEigsaw puzzle pieceSoinCystickHugglingGno
CpiterHkaabaDithi abbreviation signRdandaEouble dandaFsection markTenumeration signQletter aAaBiBu
CbaBhaDcaBhaDdaBdaBdhaDhaDhaDeBgaBhaDhaCiAiCjaBhaDkaBhaDlaCmaCnaBgaCnaCyaDoBpaBhaDraBhaDsaBhaCsaDta
BhaCtaBhaEuAuCvaCyaJnumber signA aboveRsection markLign anusvaraIcandrabinduLnuktaFviramaEsarga
Mvowel sign aaBiBuCeBiAiCoBuAuCvocalic rZAngarooExi radical againEndCrriveDowExeDbadgerEmbooFeanDig
BrdCtterFlackDoodDueDoatCdyClt of clothLneCwCranchEistleFushFcartCuldronGveDhildEityDlanBwCiff
DothesGolorDmpareFrpseEverDwDdeathDerDipperEshBtinguishJvinationJo notEgBorCtAted cliffFtentJuble x
Gwn boxHragonEumCyDearAthDtCightEmbroideryJnclosureHterEvenAingGyeDfaceCngCtherFeatherGieldDghtDre
CshDluteDyCootDragrantGogDurDgateDhostEoA slowlyHldDrainCssFhairClberdEf tree trunkNndDeadBrtDmp
Diding enclosurePookCrnBseFiceCnchCsectGjadeCrDknifeFlackCmeDeafBtherFekCgsDidBfeCneDongA stride
LmanCeatClonEilletEnisterHoonCrningEtarEundBtainFthFnetCoseCtDoldCneAselfGpen boxGposeGpigClowDower
ErivateFofoundIrainCpBtCedCiceCght open boxMverEoofDunDsacrificial wineOltCyCcholarFriptFealCcondEe
BlfDheepCllDootCrt tailed birdKhreadLicknessGlkDkinDlashCveDiceEmallEnoutEoundEpearCechEiritEoon
DroutFquareFtandDeamCpConeCpApingHunCweetFtableDllCnned leatherNenCigerDleDongueEothErackDeeCipod
FurbanDtleFwoA handsJuseDvalleyFillageHwalkA enclosureMterEeaponEstDheatDiteEindBeDomanDrkDrapCong
FyellowSnada ai length markOdigit eightFfiveDourEnineEoneDsevenEixDthreeEwoDzeroKlength markJtter a
AaBiBuCbaBhaDcaBhaDdaBdaBhaDhaDeAeCfaCgaBhaDhaCiAiCjaBhaDkaBhaDlaBlaBlaEmaCnaAkaara polluMgaCnaCya
DoAoCpaBhaDraBraDsaBhaCsaDtaBhaCtaBhaEuAuCvaBocalic lAlCrArKyaJsign anusvaraHvagrahaIcandrabindu
LjihvamuliyaLnuktaFsiddhamGpacing candrabinduTupadhmaniyaLviramaEsargaMvowel sign aaBiBuCeAeCiAiCo
AoCuAuCvocalic lAlCrArZCtakana digraph kotoMiteration markOletter aArchaic eBwuCyeBiKbaBeBiBoBuCda
BeBiBoBuCeBgaBeBiBoBuChaBeBiBoBuCiBkaBeBiBoBuCmaBeBiAnnan nasalized tone-1B2B3B4B5B7B8Qtone-2B3B4B5
B7B8MoBuCnAaBeBiBoBuCoBpaBeBiBoBuCraBeBiBoBuCsaBeBiBmall aBeBhaBeBiBoBuCiBkaBeBuCmuCnAuCoBraBeBiBo
BuCsiBuCtoBuCuBwaBeBiBoCyaBoBuHoBuCtaBeBiBoBuCuBvaBeBiBoBuCwaBeBiBoCyaBoBuCzaBeBiBoBuJmiddle dot
Kvoiced iteration markW-hiragana double hyphenNprolonged sound markUsemi-voiced sound mark
Wvoiced sound markZIyah li digit eightFfiveDourEnineEoneDsevenEixDthreeEwoDzeroKletter aBbaCcaCda
CgaChaBtaDiBkaBhaDlaCmaCnaBgaCyaDoeBoCpaBhaDraCsaBhaDtaBhaDvaCwaCyaCzaJsign cwiDshyaJtone calya
A plophuMplophuLvowel eAeCoBuAeQelvin signJyAboardA and mousePcap tenJharoshthi digit fourEone
DthreeEwoJfraction one halfRletter aBbaBhaDcaBhaDdaBdaBhaDhaDgaBhaDhaCjaCkaBhaCkaDlaCmaCnaBnaCyaDpa
BhaDraCsaBhaCsaDtaBhaCtaBhaCtaBhaFvaBhaDyaCzaJnumber one hundredHthousandMtenCwenty
Npunctuation circleFrescent barMdandaEotBuble dandaMlinesEotusFmangalamIsmall circleYsign anusvara
Ibar aboveJcaudaFdot belowHuble ring belowRvisargaMviramaFowel length markLsign eBiBoBuBvocalic r
ZEitan small script character-18b00B1B2B3B4B5B6B7B8B9BaBbBcBdBeBfC10B1B2B3B4B5B6B7B8B9BaBbBcBdBeBf
C20B1B2B3B4B5B6B7B8B9BaBbBcBdBeBfC30B1B2B3B4B5B6B7B8B9BaBbBcBdBeBfC40B1B2B3B4B5B6B7B8B9BaBbBcBdBeBf
C50B1B2B3B4B5B6B7B8B9BaBbBcBdBeBfC60B1B2B3B4B5B6B7B8B9BaBbBcBdBeBfC70B1B2B3B4B5B6B7B8B9BaBbBcBdBeBf
C80B1B2B3B4B5B6B7B8B9BaBbBcBdBeBfC90B1B2B3B4B5B6B7B8B9BaBbBcBdBeBfCa0B1B2B3B4B5B6B7B8B9BaBbBcBdBeBf
Cb0B1B2B3B4B5B6B7B8B9BaBbBcBdBeBfCc0B1B2B3B4B5B6B7B8B9BaBbBcBdBeBfCd0B1B2B3B4B5B6B7B8B9BaBbBcBdBeBf
Ce0B1B2B3B4B5B6B7B8B9BaBbBcBdBeBfCf0B1B2B3B4B5B6B7B8B9BaBbBcBdBeBfDc00B1B2B3B4B5B6B7B8B9BaBbBcBdBe
BfC10B1B2B3B4B5B6B7B8B9BaBbBcBdBeBfC20B1B2B3B4B5B6B7B8B9BaBbBcBdBeBfC30B1B2B3B4B5B6B7B8B9BaBbBcBdBe
BfC40B1B2B3B4B5B6B7B8B9BaBbBcBdBeBfC50B1B2B3B4B5B6B7B8B9BaBbBcBdBeBfC60B1B2B3B4B5B6B7B8B9BaBbBcBdBe
BfC70B1B2B3B4B5B6B7B8B9BaBbBcBdBeBfC80B1B2B3B4B5B6B7B8B9BaBbBcBdBeBfC90B1B2B3B4B5B6B7B8B9BaBbBcBdBe
BfCa0B1B2B3B4B5B6B7B8B9BaBbBcBdBeBfCb0B1B2B3B4B5B6B7B8B9BaBbBcBdBeBfCc0B1B2B3B4B5B6B7B8B9BaBbBcBdBe
BfCd0B1B2B3B4B5PfillerYmer currency symbol rielUdigit eightFfiveDourEnineEoneDsevenEixDthreeEwo
DzeroKindependent vowel lyAyDqaaBiBqBuCeBiAiCoo type oneDtwoLuAkBuAvEryAyVletter baCcaBhaBoCoCdaBo
ChaCkaBhaBoCoClaBoCmoCngoCnoCoByoDphaBoCoCqaCroCsaBhaCsoDtaBhaBoCoBthaBoEvoCyoJsign ahsdaEtthacan
HvakrahasanyaNbantocEriyoosanIthamasatJeyyalGcamnuc pii kuuhOoengFkakabatGhanDoomuutHlek too
HmuusikatoanLnikahitHphnaek muanLreahmukGobatFsamyok sannyaNtoandakhiatKriisapHviriamGyuukaleapintu
Rymbol bei koetErocGuon koetErocIdap koetErocE-bei koetErocGuon koetErocImuoy koetErocIpii koetEroc
Gram koetErocMlek attak beiCuonEmuoyEpiiCramA-beiCuonEmuoyEpiiIsonNmuoy koetErocIpathamasatJii koet
ErocGram koetErocE-bei koetErocGuon koetErocImuoy koetErocIpii koetErocMtuteyasatQvowel inherent aa
BqLsign aaBeBiBuCeBiAeBiCoeBoCuAaBuCyAaByRojki abbreviation signRdandaEouble dandaFsection mark
Tletter aAaBiBuCbaBbaChaDcaBhaDdaBdaBdaChaDhaDeBgaBgaChaDhaCiBjaBjaDkaBhaDlaBlaDmaCnaBgaCnaCyaDoBpa
BhaDraCsaCtaBhaCtaBhaEuBvaCyaJsection markLign anusvaraInuktaFshaddaFukunFviramaLvowel sign aaBiBu
CeBiAiCoBuMword separatorTudawadi digit eightFfiveDourEnineEoneDsevenEixDthreeEwoDzeroKletter aAaBi
BuCbaBbaChaDcaBhaDdaBdaBdaChaDhaDeBgaBgaChaDhaCiAiCjaBhaCjaDkaBhaDlaCmaCnaBgaCnaCyaDoBpaBhaDraBra
DsaBhaDtaBhaCtaBhaEuAuCvaCyaJsign anusvaraInuktaFviramaLvowel sign aaBiBuCeBiAiCoBuAuWimonoEp sign
GssA markFing cat face with closed eyesZAfaceA with closed eyesLsmiling eyesZDteCwifruit
Ineeling personNotDoalaDrean standard symbolVronosGl b bar symbolNab coatFelDcrosse stick and ball
VdderDy beetleJnguage tagKo cancellation markRdigit eightFfiveDourEnineEoneDsevenEixDthreeEwoDzero
KellipsisIho moCnoFko laFletter boCcoCdoCfo fayConDsungEtamGho sungEtamGkhmu goCnyoGo sungEtamGoClo
A lingDootHmoCngoCoByoDoBpali bhaDchaDddaBhaDhaDghaDjhaDllaDnnaCyaDttaBhaIho sungEtamGoCro
Csanskrit shaCsaLo sungEtamGtho sungEtamGoCwoCyoJniggahitaJsemivowel sign loCnyoRign pali virama
Qtone mai catawaGekCthoCiLvowel sign aAaBiBmByCeAiCiAiCmai kanConHoBuAuCyAyPrge blue circleGdiamond
HsquareKrown circleGsquareMcircleGdown tackJgreen circleGsquareMleft triangle operator
Wone dot over two dots punctuationZEring over two rings punctuationZJrange circleGdiamondHsquare
Npurple circleGsquareNred circleGsquareKtriple vertical bar operator
ZCwo dots over one dot punctuationZErings over one ring punctuationZKup tackHyellow circleGsquare
Or thanA or equal toUi signHst quarter moonA symbolGwith faceZAtin capital letter aA with acute
FbreveA and acuteFdot belowJgraveFhook aboveKtildePcaronEircumflexA and acuteFdot belowJgrave
Fhook aboveKtildeUdiaeresisA and macronTot aboveA and macronQbelowHuble graveMgraveFhook above
Kinverted breveOmacronGogonekGring aboveA and acutePbelowKstrokeGtildeLaBeA with acuteFmacron
Nfrican dIlphaEnglicana wKoBuBvA with horizontal barVyCbA with dot aboveFbelowJflourishIhook
Eline belowKstrokeGtopbarMetaDroken lIcA with acuteFbarDcaronEedillaA and acuteQircumflexKdot above
JhookEpalatal hookMstrokeMhiClosed insular gPonCuatrilloA with commaUdA with caronEedilla
Gircumflex belowQdot aboveFbelowJhookEline belowKshort stroke overlayTmall letter zA with caron
YtrokeGtopbarMzA with caronNeA with acuteFbreveFcaronEedillaA and breveQircumflexA and acute
Fdot belowJgraveFhook aboveKtildeJbelowQdiaeresisIot aboveFbelowHuble graveMgraveFhook above
Kinverted breveOmacronA and acuteFgraveQogonekGstrokeGtildeA belowRgyptological ainClefRngCshCtAh
CzhA reversedIwith caronOfA with dot aboveJhookEstrokeNgA with acuteFbreveFcaronEedillaGircumflex
Kdot aboveJhookEmacronGoblique strokeOstrokeMammaEhaClottal aBiBstopEuJhA with breve belowLcaron
EedillaGircumflexKdescenderIiaeresisIot aboveFbelowJhookEstrokeMalf hFengDwairFiA with acuteFbreve
FcaronEircumflexKdiaeresisA and acuteSot aboveFbelowHuble graveMgraveFhook aboveKinverted breve
OmacronGogonekGstrokeGtildeA belowRnsular dBfBgBrBsBtIotaDsCjA with circumflexJrossed-tailMstrokeNk
A with acuteFcaronEedillaHdescenderIiagonal strokeOot belowJhookEline belowKoblique strokeOstroke
A and diagonal strokeZIlA with acuteFbarCeltEcaronEedillaGircumflex belowQdot belowA and macron
Suble barKhigh strokeLline belowKmiddle dotDtildeMsmall letter jNtrokeMjCmA with acuteFdot above
FbelowJhookKiddle scots sI-welsh llCvOnA with acuteFcaronEedillaGircumflex belowQdescenderIot above
FbelowJgraveFleft hookIine belowJong right legOoblique strokeOsmall letter jOtildeLjCoA with acute
FbreveFcaronEircumflexA and acuteFdot belowJgraveFhook aboveKtildeUdiaeresisA and macronTot above
A and macronQbelowHuble acuteFgraveMgraveFhook aboveIrnA and acuteFdot belowJgraveFhook aboveKtilde
Oinverted breveOlong stroke overlayRopEmacronA and acuteFgravePiddle tildeMogonekA and macron
RstrokeA and acuteQtildeA and acuteFdiaeresisJmacronWiBld polish oLmegaEoBpen eBoFuCpA with acute
Fdot aboveJflourishIhookEsquirrel tailMtrokeA through descenderZGqA with diagonal stroke
Pstroke through descenderZGrA rotundaHwith acuteFcaronEedillaHdot aboveFbelowA and macron
Suble graveMinverted breveOline belowKoblique strokeOstrokeGtailKeversed c with dotKeBhalf hGopen e
Oum rotundaLsA with acuteA and dot aboveTcaronA and dot aboveSedillaGircumflexJomma belowLdot above
FbelowA and dot aboveXhookEoblique strokeOshort stroke overlayTwash tailQaltilloHchwaDript gHharp s
Gigmoid sImall capital iJq with hook tailWtA with caronEedillaGircumflex belowPomma below
Ldiagonal strokeOot aboveFbelowJhookEline belowKretroflex hookOstrokeMhornA with stroke
A through descenderZJone fiveEsixDtwoHresilloHurned aAlphaFhBinsular gJkBlBmBtBvHzCuA bar
Dwith acuteFbreveFcaronEircumflexA belowQdiaeresisA and acuteFcaronFgraveFmacronKbelowOot below
Huble acuteFgraveMgraveFhook aboveIrnA and acuteFdot belowJgraveFhook aboveKtildeOinverted breve
OmacronA and diaeresisUogonekGring aboveKstrokeGtildeA and acuteJbelowRpsilonHv
A with diagonal strokeOot belowJhookEtildeLendDisigothic zLolapuk aeCoeCueJyCwA with acute
FcircumflexKdiaeresisIot aboveFbelowJgraveFhookKynnExA with diaeresisIot aboveQyA with acute
FcircumflexKdiaeresisIot aboveFbelowJgraveFhookA aboveKloopEmacronGstrokeGtildeLoghEzA with acute
FcaronEircumflexKdescenderIot aboveFbelowJhookEline belowKpalatal hookMstrokeFwash tailXigature ij
CoeSrossFepigraphic letter archaic mJi longaGnverted mKreversed fBpKsideways iZDletter ain
Clveolar clickObidental percussiveRlabial clickFpercussiveTdental clickMglottal stopA with stroke
Yinverted glottal stopA with curlEstrokeZIlateral clickNpharyngeal voiced fricative
ZCretroflex clickA with retroflex hookZIversed esh loopIglottal stop with strokeZIsinological dot
Omall capital aAeCbAarred bIcBdBeAthCzhDfBgA with hookLhBiAnverted rKjBkBlA with beltEstrokeNmBnBo
AeBpen oFuCpBqBrA with right legPeversed nBrJumDsBtAurned eBgBkBmBrIuBvBwByBzOtretched cA with curl
Vtwo with strokePvoiced laryngeal spirantYwynnEyrJsmall capital letter i with strokeNu with stroke
ZDletter aA reversed-schwaOwith acuteFbreveA and acuteFdot belowJgraveFhook aboveKtildePcaron
EircumflexA and acuteFdot belowJgraveFhook aboveKtildeUdiaeresisA and macronTot aboveA and macron
QbelowHuble graveMgraveFhook aboveKinverted breveOmacronGogonekGretroflex hookNight half ring
Nng aboveA and acutePbelowKstrokeGtildeLaBeA with acuteFmacronNlphaA with retroflex hookYnglicana w
KoBuBvA with horizontal barVyCbA with dot aboveFbelowJflourishIhookEline belowKmiddle tilde
Mpalatal hookMstrokeGtopbarMarred alphaFeBoGseline eshLetaDlackletter eBoA with strokeYottom half o
Mroken lIcA with acuteFbarDcaronEedillaA and acuteQircumflexJurlEdot aboveJhookEpalatal hook
Mretroflex hookOstrokeMhiA with low left serifKright ringWlosed insular gJomegaEpen e
Greversed open eVonCuatrilloA with commaUdA with caronEedillaGircumflex belowPurlEdot aboveFbelow
JhookA and tailNline belowKmiddle tildeMpalatal hookMshort stroke overlayTtrokeGtailDopbar
Mb digraphJeltaDzh digraphA with palatal hookMretroflex hookZGotless iBjA with strokeA and hook
ZDuble rA with crossed-tailTthornFwynnKumCzA digraphA with curlEretroflex hookZCwith caronNe
A with acuteFbreveFcaronEedillaA and breveQircumflexA and acuteFdot belowJgraveFhook aboveKtilde
JbelowQdiaeresisIot aboveFbelowHuble graveMflourishIgraveFhook aboveKinverted breveOmacron
A and acuteFgraveQnotchFogonekGretroflex hookOstrokeGtildeA belowRgyptological ainClefRng
A with crossed-tailMpalatal hookUshA with curlEdouble barA and curlTpalatal hookMretroflex hookWtAh
CzhA reversedIwith caronEurlEpalatal hookMretroflex hookOtailNfA with dot aboveJhookEmiddle tilde
Mpalatal hookMstrokeMeng digraphA with trillXgA with acuteFbreveFcaronEedillaGircumflexKdot above
JhookEmacronGoblique strokeOpalatal hookMstrokeMammaEhaClottal aBiBstopEuJhA with breve belowLcaron
EedillaGircumflexKdescenderIiaeresisIot aboveFbelowJhookEline belowKpalatal hookMstrokeMalf hFeng
A with hookNvCiA with acuteFbreveFcaronEircumflexKdiaeresisA and acuteSot belowHuble graveMgrave
Fhook aboveKinverted breveOmacronGogonekGretroflex hookOstrokeA and retroflex hookZAtildeA below
Rnsular dBfBgBrBsBtHverted alphaFoeKotaA with strokeNified eJsCjA with caronEircumflexJrossed-tail
MstrokeNkA with acuteFcaronEedillaHdescenderIiagonal strokeOot belowJhookEline belowKoblique stroke
Opalatal hookMstrokeA and diagonal strokeZHraDlA with acuteFbarCeltA and palatal hookVcaronEedilla
Gircumflex belowPurlEdot belowA and macronSuble barDmiddle tildeTfishhookIhigh stroke
Linverted lazy sPline belowKmiddle dotDringEtildeMpalatal hookMretroflex hookA and beltXstroke
Mambda with strokeRenis fFzhA with retroflex hookXjBong sA with diagonal strokeOot above
Jhigh strokeWs digraphJumCz digraphKmA with acuteFcrossed-tailMdot aboveFbelowJhookEmiddle tilde
Mpalatal hookSiddle scots sI-welsh llCvNumDnA preceded by apostropheWwith acuteFcaronEedilla
Gircumflex belowProssed-tailLurlEdescenderIot aboveFbelowJgraveFleft hookIine belowJong right leg
Omiddle tildeMoblique strokeOpalatal hookMretroflex hookOtildeLjBumDoA with acuteFbreveFcaron
EircumflexA and acuteFdot belowJgraveFhook aboveKtildeUdiaeresisA and macronTot aboveA and macron
QbelowHuble acuteFgraveMgraveFhook aboveIrnA and acuteFdot belowJgraveFhook aboveKtilde
Oinverted breveOlong stroke overlayRopCw ring insidePmacronA and acuteFgraveQogonekA and macron
Rretroflex hookOstrokeA and acuteQtildeA and acuteFdiaeresisJmacronWiBld polish oLmegaEoBpen e
A with retroflex hookVoA with retroflex hookOstrokeMeGuCpA with acuteFdot aboveJflourishIhook
Emiddle tildeMpalatal hookMsquirrel tailMtrokeA through descenderZFhiDqA with diagonal strokePhook
A tailJstroke through descenderZFp digraphKrA rotundaHwith acuteFcaronEedillaGrossed-tailMdot above
FbelowA and macronSuble graveMfishhookA and middle tildeMpalatal hookZAinverted breveOline below
Jong legImiddle tildeMoblique strokeOpalatal hookMstrokeGtailFout handlePams hornIeversed c
A with dotKeAngDhalf hGkBopen eA with hookEretroflex hookZBr with fishhookPscript gQumA rotundaLs
A with acuteA and dot aboveTcaronA and dot aboveSedillaGircumflexJomma belowKurlEdot aboveFbelow
A and dot aboveXhookEmiddle tildeMoblique strokeOpalatal hookMshort stroke overlayTwash tail
Qakha yatHltilloHchwaA with hookEretroflex hookXript gA with crossed-tailTrA with ringRharp s
Gideways diaeresized uNoA with strokeMpen oGturned mIuIgmoid sIquat reversed eshRtirrup rJt
A with caronEedillaGircumflex belowPomma belowKurlEdiaeresisGgonal strokeOot aboveFbelowJhook
A and retroflex hookXline belowKmiddle tildeMpalatal hookMretroflex hookOstrokeMailless phi
Lc digraph with curlTesh digraphA with palatal hookMretroflex hookZGh with strikethroughTorn
A with strokeA through descenderZJone fiveEsixDtwoGp half oJresilloHs digraphA with retroflex hook
ZEumBrned aAeBlphaFdeltaFeBgBhA with fishhookA and tailYiAnsular gJkBlBmA with long legPo open-o
A with strokeTeA with horizontal strokeRstrokeNpen eGrA with hookElong legA and retroflex hook
ZCmiddle tildeMpalatal hookMtailLtA with curlLuiCvBwByA with beltRzCuA barA with short right leg
Ywith acuteFbreveFcaronEircumflexA belowQdiaeresisA and acuteFcaronFgraveFmacronKbelowOot below
Huble acuteFgraveMgraveFhook aboveIrnA and acuteFdot belowJgraveFhook aboveKtildeOinverted breve
Oleft hookJmacronA and diaeresisUogonekGretroflex hookNing aboveKshort right legOtrokeGtilde
A and acuteJbelowReBiBmBoBpsilonA with strokeTvA with curlEdiagonal strokeOot belowJhook
Epalatal hookMright hookKtildeLendDisigothic zLolapuk aeCoeCueJyCwA with acuteFcircumflexKdiaeresis
Iot aboveFbelowJgraveFhookEring aboveRxA with diaeresisIot aboveJlong left legA and low right ring
Swith serifWw right ringOpalatal hookTyA with acuteFcircumflexKdiaeresisIot aboveFbelowJgraveFhook
A aboveKloopEmacronGring aboveKshort right legOtrokeGtildeLoghEzA with acuteFcaronEircumflexJurl
EdescenderIot aboveFbelowJhookEline belowKmiddle tildeMpalatal hookMretroflex hookOstrokeFwash tail
Xigature ffAiBlCiBlCijClong s tIoeCstQubscript small letter aBeBhBiBjBkBlBmBnBoBpBrBsAchwaFtBuBvBx
ZEeaf fluttering in windTy greenJdgerEft and lower and right triangular three quarters block
ZQone eighth blockWright double turnstileQtackDriangular half block
ZCupper and right triangular three quarters blockZQone eighth blockYger bubbleJle bracketA with dot
Vrc less-than bracketTrow with circled plusMsmall circleXbarb down right barb down harpoon
Mup harpoonZBup right barb down harpoonMup harpoonZDlack lenticular bracketStortoise shell bracket
ZDceilingGlosed entryLorner bracketNurly bracketA lower hookKmiddle pieceMupper hook
Ydotted substitution bracketZAuble angle bracketNparenthesisLquotation markOwiggly fenceTfish tail
Hve eighths blockRloorFhalf black circleGstarIockFcircleA with dotDfour dotsJthree dotsJwo dots
UfolderGinverse medium shade and right half blockZQmedium shadeMrunning manOnd telephone receiver
Xlow paraphrase bracketVuggageHmultimapInormal factor semidirect productZHone eighth block
Mquarter blockQuter joinKparenthesisA extensionJlower hookKupper hookWraised omission bracket
Wight arrowA through small circleUwith double vertical strokeWstrokeGvertical strokeZBblack arrow
Ldouble arrowA with strokeGvertical strokeZIopen-headed arrowRsans-serif arrow
Qtriangle-headed arrowVwave arrowJhite arrowRs-shaped bag delimiterVemidirect product
Qven eighths blockSideways u bracketQngle quotation markUpeech bubbleMquare bracketA extension
Jlower cornerMupper cornerMwith double strokeNquillFstrokeGtick in bottom cornerNtop corner
SunderbarZCubstitution bracketUtackDhird white right pointing indexZFought bubbleMree eighths block
Nquarters blockTortoise shell bracketVransposition bracketTiangle beside vertical bar
Wular one quarter blockZDvertical bar with quillNox lineRwhite corner bracketNurly bracket
Nlenticular bracketSparenthesisLsquare bracketOtortoise shell bracketZCiggly fenceLriting hand
N-facing armenian eternity signWfistEsvasti signA with dotsZDhanded interlaced pentagram
ZCpointing angle bracketNcurved angle bracketUdouble angle quotation markZCmagnifying glass
ZAshaded white rightwards arrowZDide arc anticlockwise arrowZDto-right embeddingJisolateHmark
EoverrideSwards arrowA above almost equal toPreverse almost equal toPtilde operator
Wshort rightwards arrowWtilde operatorTnd upper and lower one eighth blockZLfrom bar
A to black diamondZAover rightwards arrowVthrough less-thanJsubsetGxIo bar
A over rightwards arrow to barZGlack diamondQwith dotted stemJuble vertical stroke
Wequilateral arrowheadVhookElarge triangle arrowheadXoopEmedium triangle arrowheadZAnotched tail
Mplus belowKsmall equilateral arrowheadVtriangle arrowheadXtrokeGtailA with double vertical stroke
Wvertical strokeYip downwardsJupwardsLvertical strokeV-tailKback-tilted shadowed white arrow
ZGlack arrowFcircled white arrowYottom-shaded white arrowZAcompressed arrowQdashed arrow
Louble arrowA from barIwith strokeGvertical strokeV-tailKdash arrowRfinger-post arrow
Qront-tilted shadowed white arrowZIhandCrpoon over rightwards harpoon
Xwith barb down above rightwards harpoon with barb downZObelow long dashPfrom barIto barHwards
Jup above leftwards harpoon with barb downZGong dashJrightwards harpoon with barb upZMfrom bar
Ito barHwardsYeavy arrowFcompressed arrowWleft-shaded white arrowXopen-headed arrowRpaired arrows
Nquadruple arrowPright-shaded white arrowXocketGsans-serif arrowPquared arrowKiggle arrow
Otop shaded white arrowVriangle arrowheadK-headed arrowA over rightwards triangle-headed arrow
ZMto barGwith bold shaftKdouble horizontal strokeRvertical strokeWheavy shaftLlong tip downwards
JupwardsQmedium shaftMnarrow shaftMvery heavy shaftZCdashed arrowMpaired arrowsZBple arrow
Fdash arrowQwo headed arrowN-headed arrow from barIwith double vertical strokeWtail
A with double vertical strokeWvertical strokeYriangle arrowheadsTvertical strokeZBtriple dash arrow
ZDwave arrowJhite arrowA within triangle arrowheadZUgBmonDoApardFpcha consonant sign kAangElBmBn
Ayin-doHpBrBtQdigit eightFfiveDourEnineEoneDsevenEixDthreeEwoDzeroKletter aBbaBlaDcaBhaDdaBdaCzaDfa
BlaDgaBlaDhaBlaDjaCkaBhaClaDlaCmaBlaDnaBgaCyaDpaBhaClaDraCsaBhaDtaBhaCsaBhaDtaBhaEvaCwaCya
Jpunctuation cer-waGnyet thyoom ta-rolSta-rolFshookA cer-waZAsign nuktaFranHubjoined letter raCya
Tvowel sign aaCeBiBoAoCuAuSss-than above double-line equal above greater-than
ZLgreater-than above double-line equalZLleftwards arrowPsimilar above greater-thanSor equal
Planted equal above greater-than above slanted equalZZHnd not approximatePsingle-line not equal to
ZDbut not equal toFivalent toVclosed by curveA above slanted equalZKequal to or greater-than
Yor approximateLequal toFivalent toNgreater-thanMslanted equal toA with dot aboveA rightLinside
ZJver equal toNsignEwith circle insideNdotDquestion mark aboveZHvel sliderLfBibra
Dgature open et ornamentWht check markKeight spoked asteriskVfive pointed black star
Sspoked asteriskTour pointed black cuspEstarXgreek crossLleft tortoise shell bracket ornamentZLrail
Dight tortoise shell bracket ornamentZMsaltireGhadeEix spoked asteriskTthree pointed black star
Xwelve pointed black starZAvertical barMwhite squareNningA moodA bubbleTmbu digit eightFfiveDour
EnineEoneDsevenEixDthreeEwoDzeroKexclamation markQletter baBhaDcaBhaDdaBhaDgaBhaCyanEhaCjaBhaDkaBha
DlaCmaCnaBgaDpaBhaDraCsaBhaCsaDtaBhaCraDwaCyaAnKquestion markNsign kemphrengJlooDmukphrengJsa-i
Imall letter anusvaraIkaClaCmaCnaBgaDpaCraCtaOubjoined letter raCwaCyaTvowel sign aAiBuCeAeCiBoAoCu
H-carrier letterXited liability signUne feedEintegration not including the pole
Wwith rectangular path around poleZDsemicircular path around poleZVseparatorJtabulationA set
Par a sign a028bE100-102G20bD31cE301B2B3B4B5B6B7B8B9aBbBcD10B1B2B3aBbBcC4B5B6B7B8B9C20B1B2B3B4B5B6
B7B8B9C30B1B2B3B4B5B6B7B8B9C40B1B2B3B4B5B6B7B8B9C50B1B2B3B4B5B6B7B8B9C60B1B2B3B4B5B6B7B8B9C70B1
D400-vasF1-vasF2-vasF3-vasF4-vasF5-vasF6-vasF7-vasF8-vasF9-vasG10-vasF1-vasF2-vasF3-vasF4-vasF5-vas
F6-vasF7-vasF8-vasH501B2B3B4B5B6B8B9C10B1B2B3B5B6C20B1B3B4B5B6B7B8B9C30B1B2B4B5B6B7B8B9C40B1B2B5B7
B8B9C50B1B2B3B4B5B6B7B9C63B4B5B6B8B9C70B1B2B3B4B5B6B7B8B9C80B1B2B3B4B5B6B7B8B9C91B2B4B5B6B8D600B1B2
B3B4B6B8B9C10B1B2B3B4B5B6B7B8B9C20B1B2B3B4B6B7B8B9C34B7B8C40B2B3B4B5B6B8B9C51B2B3B4B5B6B7B8B9C60B1
B2B3B4D701 aD2 bD3 dD4 eD5 fD6 hD7 jD8 kD9 lC-2 l2E3 l3E4 l4E6 l6H10 wD1 xD2 yD3 omegaH4 abbF5 bb
E7 ddF26 eyyyH32 jeG800B1B2B3B4B5B6B7Db001B2B3B4B5B6B7B8B9C10B1B3B6B7C20B1AfBmC2AfBmC3AmC4B6B7B8B9
C30B1B4B7B8B9C40B1B4B5B6B7B8B9C50B1B3B4B5B6B7B8B9C60B1B5B6B7B9C70B3B4B6B7B8B9C80B1B2B5B6B7D118C20B2
B3C31aBbD64C71C80B8C91Mb ideogram b100 manF2 womanH4 deerG5 equidGf mareGm stallionL6f eweFm ram
G7f she-goatKm he-goatK8f sowFm boarH9f cowFm bullI20 wheatH1 barleyI2 oliveH3 spiceH5 cyperus
K30 oilF1 wineG2C40 bronzeI1 goldG2B5 woolG6C50B1 hornG2B3B4B7B8B9 clothI60B1B2 garmentJ3 armourI4
B5B6B7B8B9C70B1B2B3 monthH4B6 treeG7B8B9C80B1B2B3B4B5B9C90B1 helmetK220 footstoolL5 bathtub
K30 spearH1 arrowH2B3 swordH4B6C40 wheeled chariotR1 chariotJ2 chariot frameP3 wheelH5B6B8B9C51B2B3
B4 dartG5B6B7B8B9Evessel b155D200B1B2B3B4B5B6B7B8B9C10B1B2B3B4B5B6B7B8B9C21B2B6B7B8B9C50D305
Umonogram b127 kapoG8 kanakoJ33 arepaH5 meriH56 turo2J247 dipteTsyllable b001 daE2 roE3 paE4 te
E5 toE6 naE7 diE8 aD9 seF10 uD1 poE2 soE3 meE4 doE5 moE6 qaE7 zaF20 zoE1 qiE3 muE4 neE5 a2E6 ru
E7 reE8 iD9 pu2G30 niE1 saE2 qoE3 ra3F6 joE7 tiE8 eD9 piF40 wiE1 siE2 woE3 a3E4 keE5 deE6 jeE8 nwa
G50 puE1 duE2 noE3 riE4 waE5 nuE7 jaE8 suE9 taF60 raE1 oD2 pteF5 juE6 ta2F7 kiE8 ro2F9 tuF70 ko
E1 dweF2 peE3 miE4 zeE5 weE6 ra2F7 kaE8 qeF80 maE1 kuE5 auE7 tweG90 dwoF1 twoPmbol b018B9C22C34C47
B9C56C63B4C79C82B3B6B9Rk symbolHed paperclipsPon faceHpsAtickGra signHsu letter aAeCbaCcaBhaDdaBza
DeAuCfaCgaBhaDhaBhaDiBjaCkaBhaDlaCmaCnaBgaDoAeCpaBhaDsaBhaDtaBhaCone mya boCcyaDjeuDnaCtiGna poJsa
BhaEuAeBhCwaCxaCyaBhaDzaBhaKpunctuation commaFfull stopYvre tournois signRzardFlamaEobsterFck
A with ink penNing-shift oneDzeroQgical andA with dot aboveHuble overbarHunderbarPhorizontal dash
Pmiddle stemLunderbarRorA overlapping logical andXwith dot aboveHuble overbarHunderbar
Phorizontal dashPmiddle stemZAllipopGng dash from left member of double verticalZOivisionHrum
Eleft right arrowFdouble arrowStackFwards arrowA from barOdouble arrowA from barVsquiggle arrow
Yright tackFwards arrowA from barOdouble arrowA from barVsquiggle arrowZDtion bottleKus
Dudly crying faceQve hotelFletterJw asteriskIbatteryGrightness symbolRdouble prime quotation mark
ZCkavykaA with dotPlineFer blade scissorsOfive eighths blockShalf blockFcircleGinverse white circle
Umedium shadeRleft ballpoint penMlock diagonal lower middle left to lower centreGright
ZHupper centre to lower middle rightMrightLupper middle rightZDleft to lower centreGmiddle right
Supper middle rightZBmiddle left to lower centreGmiddle rightMrightZWcrayonGfountain penMpaintbrush
JencilGquadrant circular arcVsemicircular anticlockwise arrowZHtriangleCular medium shade
ZDone eighth blockMquarter blockRright block diagonal lower centre to lower middle right
Supper middle rightMrightVleft to lower middle rightSupper centreGmiddle right
ZBmiddle left to upper centreGmiddle rightMrightZHupper middle left to upper centreGright
ZWcorner with dotPdrop-shadowed white squareZBpencilGquadrant circular arc
Vsemicircular clockwise arrowZChadowed white circleGsquareVtriangleCular medium shade
ZEseven eighths blockTthree eighths blockNquarters blockTriangular one quarter blockZHzenge
A divided by horizontal ruleZIreBiBmBoCuggageFngsEycian letter aAnCbAhCdBeAnCgBhBiBjBkAkClBmAmCnAn
CpBqBrBsBtAhBtCuBwBxBzNdian letter aAnCbBcBdBeAnCfBgBiBkBlAyCmBnAnCoBqBrBsAsCtAtCuBvBy
Itriangular markUing faceKmacronEgeBic wandHnetEhajani abbreviation signRletter aBbaBhaDcaBhaDdaBda
BhaDhaDeBgaBhaDhaCiBjaBhaDkaBhaDlaCmaCnaBnaCyaDoBpaBhaDraBraDsaCtaBhaCtaBhaEuBvaIigature shri
Nsection markLign nuktaQjong tile autumnGbackCmbooGchrysanthemumNeast windIight of bamboos
HcharactersJirclesQfive of bamboosHcharactersJirclesOour of bamboosHcharactersJirclesPgreen dragon
MjokerFnine of bamboosHcharactersJirclesOorth windKone of bamboosHcharactersJirclesNrchidGplum
Ered dragonKseven of bamboosHcharactersJirclesPix of bamboosHcharactersJirclesNouth windJpring
FummerGthree of bamboosHcharactersJirclesPwo of bamboosHcharactersJirclesOwest windIhite dragon
LinterRkasar angkaFend of sectionOletter aBbaCcaCdaCgaCjaCkaClaCmaCnaBgaCyaDpaCraCsaCtaCvaCya
JpassimbangKvowel sign eBiBoBuSlayalam au length markOdate markIigit eightFfiveDourEnineEoneDseven
EixDthreeEwoDzeroKfraction one eighthGfifthEortiethIhalfEone-hundred-and-sixtiethYquarterHsixteenth
JtenthEwentiethNthree eightiethsKquartersIsixteenthsKtwentiethsZAletter aAaBiBrchaic iiJuCbaBhaDca
BhaBillu kBlAlAlDmBnAnCrrCyIdaBdaBhaDhaCot rephIeAeCgaBhaDhaCiAiCjaBhaDkaBhaDlaBlaBlaEmaCnaBgaCna
BnaDyaDoAoCpaBhaDraBraDsaBhaCsaDtaBhaCtaBhaCtaEuAuCvaBedic anusvaraNocalic lAlCrArKya
Jnumber one hundredHthousandMtenKsign anusvaraHvagrahaIcandrabinduKircular virama
Oombining anusvara aboveYparaEvertical bar viramaSiramaEsargaMvowel sign aaBiBuCeAeCiAiCoAoCuAu
Cvocalic lAlCrArZDe and female signPsignEwith stroke and male and female signYsignStese crossLmmoth
FnA and woman holding handsXdancingHin business suit levitatingYtuxedoJwith gua pi maoKturban
Mat signHdaic affrication markQgemination markPletter abBdBgBhBinCkAsaDlBmBnBpBqBrBsAhBzCtAtCz
CdushennaIhalqaFinBtCkadDushennaOpunctuationLvocalization markWgoCichaean abbreviation mark above
FbelowXletter aayinElephEyinEbethDhethFdalethFhamedhHfeCghimelFimelFheAthEjayinEhayinGkaphDhaph
FlamedhGmemDnunDpeCqhophEophEreshEsadheDmekhFhinDshinFtawCethDhamedhHwawDxaphDophEyodhEzayinEhayin
Nnumber fiveEoneA hundredLtenCwentyNpunctuation dotA within dotMuble dot within dotVfleuron
Hline fillerLstarEtwo dotsUsign udPs shoeGtelpiece clockOual wheelchairPp symbol for lighthouse
Wle leafIrchen head markJletter -aCaBbaCcaBhaDdaBzaDgaChaCjaCkaBhaDlaCmaCnaBgaCyaDpaBhaDraCsaBhaDta
BhaCsaBhaEwaCyaCzaBhaKmark shadJsign anusvaraIcandrabinduPubjoined letter aBbaCcaBhaDdaBzaDgaChaCja
CkaBhaDlaCmaCnaBgaCyaDpaBhaDraCsaBhaDtaBhaCsaBhaEwaCyaCzaBhaUvowel sign aaCeBiBoBuRriage symbol
Mtial arts uniformSsaram gondi digit eightFfiveDourEnineEoneDsevenEixDthreeEwoDzeroKletter aAaBiBu
CbaBhaDcaBhaDdaBdaBhaDhaDeBgaBhaDhaCiAiCjaBhaCnyaEkaBhaCssaElaBlaDmaCnaBgaCnaCyaDoBpaBhaDraCsaBha
CsaDtaBhaCraCtaBhaEuAuCvaCyaJra-karaGephaFsign anusvaraIcandraGhalantaHnuktaFvisargaMvirama
Fowel sign aaBiBuCeBiAiCoBuAuCvocalic rZGculine ordinal indicatorYk work symbolNu markHte drink
Hhematical bold capital aAlphaFbAetaEcAhiDdAeltaEigammaHeApsilonGtaDfBgAammaFhBiAotaEjBkAappaFl
AamdaFmAuCnAuCoAmegaDicronHpAhiCiBsiDqBrAhoDsAigmaFtAauChetaA symbolMuApsilonHvBwBxAiCyBzAeta
Mdigit eightFfiveDourEnineEoneDsevenEixDthreeEwoDzeroKepsilon symbolOfraktur capital aBbBcBdBeBfBg
BhBiBjBkBlBmBnBoBpBqBrBsBtBuBvBwBxByBzJsmall aBbBcBdBeBfBgBhBiBjBkBlBmBnBoBpBqBrBsBtBuBvBwBxByBz
Pitalic capital aAlphaFbAetaEcAhiDdAeltaFeApsilonGtaDfBgAammaFhBiAotaEjBkAappaFlAamdaFmAuCnAuCo
AmegaDicronHpAhiCiBsiDqBrAhoDsAigmaFtAauChetaA symbolMuApsilonHvBwBxAiCyBzAetaMepsilon symbol
Okappa symbolMnablaFpartial differentialThi symbolJi symbolJrho symbolKsmall aAlphaFbAetaEcAhiDd
AeltaFeApsilonGtaDfAinal sigmaLgAammaFhBiAotaEjBkAappaFlAamdaFmAuCnAuCoAmegaDicronHpAhiCiBsiDqBrAho
DsAigmaFtAauChetaFuApsilonHvBwBxAiCyBzAetaKtheta symbolTkappa symbolMnablaFpartial differential
Thi symbolJi symbolJrho symbolKscript capital aBbBcBdBeBfBgBhBiBjBkBlBmBnBoBpBqBrBsBtBuBvBwBxByBz
Jsmall aBbBcBdBeBfBgBhBiBjBkBlBmBnBoBpBqBrBsBtBuBvBwBxByBzNmall aAlphaFbAetaEcAhiDdAeltaEigammaHe
ApsilonGtaDfAinal sigmaLgAammaFhBiAotaEjBkAappaFlAamdaFmAuCnAuCoAmegaDicronHpAhiCiBsiDqBrAhoDsAigma
FtAauChetaFuApsilonHvBwBxAiCyBzAetaKtheta symbolRdouble-struck capital aBbBdBeBfBgBiBjBkBlBmBoBsBt
BuBvBwBxByJdigit eightFfiveDourEnineEoneDsevenEixDthreeEwoDzeroKsmall aBbBcBdBeBfBgBhBiBjBkBlBmBnBo
BpBqBrBsBtBuBvBwBxByBzVfalling diagonalPraktur capital aBbBdBeBfBgBjBkBlBmBnBoBpBqBsBtBuBvBwBxBy
Jsmall aBbBcBdBeBfBgBhBiBjBkBlBmBnBoBpBqBrBsBtBuBvBwBxByBzPitalic capital aAlphaFbAetaEcAhiDdAelta
FeApsilonGtaDfBgAammaFhBiAotaEjBkAappaFlAamdaFmAuCnAuCoAmegaDicronHpAhiCiBsiDqBrAhoDsAigmaFtAau
ChetaA symbolMuApsilonHvBwBxAiCyBzAetaMepsilon symbolOkappa symbolMnablaFpartial differential
Thi symbolJi symbolJrho symbolKsmall aAlphaFbAetaEcAhiDdAeltaEotless iBjJeApsilonGtaDfAinal sigmaLg
AammaFiAotaEjBkAappaFlAamdaFmAuCnAuCoAmegaDicronHpAhiCiBsiDqBrAhoDsAigmaFtAauChetaFuApsilonHvBwBxAi
CyBzAetaKtheta symbolTleft angle bracketNdouble angle bracketUflattened parenthesis
Vwhite square bracketOtortoise shell bracketZImonospace capital aBbBcBdBeBfBgBhBiBjBkBlBmBnBoBpBqBr
BsBtBuBvBwBxByBzJdigit eightFfiveDourEnineEoneDsevenEixDthreeEwoDzeroKsmall aBbBcBdBeBfBgBhBiBjBkBl
BmBnBoBpBqBrBsBtBuBvBwBxByBzRright angle bracketNdouble angle bracketUflattened parenthesis
Vwhite square bracketOtortoise shell bracketZHsing diagonalPsans-serif bold capital aAlphaFbAetaEc
AhiDdAeltaFeApsilonGtaDfBgAammaFhBiAotaEjBkAappaFlAamdaFmAuCnAuCoAmegaDicronHpAhiCiBsiDqBrAhoDs
AigmaFtAauChetaA symbolMuApsilonHvBwBxAiCyBzAetaMdigit eightFfiveDourEnineEoneDsevenEixDthreeEwo
DzeroKepsilon symbolOitalic capital aAlphaFbAetaEcAhiDdAeltaFeApsilonGtaDfBgAammaFhBiAotaEjBkAappa
FlAamdaFmAuCnAuCoAmegaDicronHpAhiCiBsiDqBrAhoDsAigmaFtAauChetaA symbolMuApsilonHvBwBxAiCyBzAeta
Mepsilon symbolOkappa symbolMnablaFpartial differentialThi symbolJi symbolJrho symbolKsmall aAlpha
FbAetaEcAhiDdAeltaFeApsilonGtaDfAinal sigmaLgAammaFhBiAotaEjBkAappaFlAamdaFmAuCnAuCoAmegaDicronHp
AhiCiBsiDqBrAhoDsAigmaFtAauChetaFuApsilonHvBwBxAiCyBzAetaKtheta symbolTkappa symbolMnabla
Fpartial differentialThi symbolJi symbolJrho symbolKsmall aAlphaFbAetaEcAhiDdAeltaFeApsilonGtaDf
Ainal sigmaLgAammaFhBiAotaEjBkAappaFlAamdaFmAuCnAuCoAmegaDicronHpAhiCiBsiDqBrAhoDsAigmaFtAauChetaFu
ApsilonHvBwBxAiCyBzAetaKtheta symbolRcapital aBbBcBdBeBfBgBhBiBjBkBlBmBnBoBpBqBrBsBtBuBvBwBxByBz
Jdigit eightFfiveDourEnineEoneDsevenEixDthreeEwoDzeroKitalic capital aBbBcBdBeBfBgBhBiBjBkBlBmBnBo
BpBqBrBsBtBuBvBwBxByBzJsmall aBbBcBdBeBfBgBhBiBjBkBlBmBnBoBpBqBrBsBtBuBvBwBxByBzOsmall aBbBcBdBeBf
BgBhBiBjBkBlBmBnBoBpBqBrBsBtBuBvBwBxByBzRcript capital aBcBdBgBjBkBnBoBpBqBsBtBuBvBwBxByBzJsmall a
BbBcBdBfBhBiBjBkBlBmBnBpBqBrBsBtBuBvBwBxByBzZAximizeGyan numeral eightAeenHlevenGfifteenFveDour
AteenInineAteenIoneDsevenAteenIixAteenHtenChirteenGreeEwelveEoDzeroReasured angleA opening left
Mwith open arm ending in arrow pointing down and leftErightOleft and downEupLright and downEup
Mup and leftErightZZHbyCright angle with dotZBt on boneKchanical armDlegMdefaidrin capital letter a
AiBtiuEbBcBdBeBfBgBhApCiBjBkApClBmBnAgByCoAeCpBqBrBsBtBuBvBwBxByAuCzPommaFdigit eightFfiveDourEnine
EoneA alternate formSsevenEixDthreeA alternate formTwoA alternate formSzeroKexclamation oh
Ofull stopJnumber eighteenHlevenGfifteenGourteenInineteenIseventeenIixteenHtenChirteenHwelve
Nsmall letter aAiBtiuEbBcBdBeBfBgBhApCiBjBkApClBmBnAgByCoAeCpBqBrBsBtBuBvBwBxByAuCzNymbol aiva
Uieval commaFexclamation markQquestion markSum black circleLold white circle
Reight pointed black starSspoked asteriskVfive spoked asteriskTlattened left parenthesis ornament
ZAright parenthesis ornamentZKour pointed black starKpinwheel starZBgreek cross
Lleft curly bracket ornamentWparenthesis ornamentV-pointing angle bracket ornament
ZLmathematical spaceSright curly bracket ornamentWparenthesis ornament
V-pointing angle bracket ornamentZMsaltireGhadeEix pointed black starSspoked asterisk
Small white circleSthree pointed black starKpinwheel starZCvertical barMwhite circleGsquare
Retei mayek ahang khudamLnjiDpun iyekJcheikhanCeiIdigit eightFfiveDourEnineEoneDsevenEixDthreeEwo
DzeroKletter atiyaFbaBhamEchaBilEddaBhaDhouDilDeBghouDokDhukDiA lonsumIjhamDilDkhouDokA lonsumKlai
A lonsumKmitA lonsumKnaA lonsumIgouA lonsumKnaCyaDoBpaA lonsumIhamEraiDsamChaCsaDthouDilA lonsumJta
BhaEunCwaiDyangKum iyekIsyllable repetition markYviramaFowel sign aaiBuCnapDuCcheinapHiiBnapEnung
EonapEsounapGunapDuCvisargaHyenapQword repetition markZGlonCting faceKmo
Cnde kikakui combining number hundred thousandsKsImillionsIteensDn thousandsKsDhousands
ZBdigit eightFfiveDourEnineEoneDsevenEixDthreeEwoJsyllable m001 kiE2 kaE3 kuE4 wiE5 waE6 wuE7 min
F8 manF9 munG10 biE1 baE2 buE3 iD4 aD5 uD6 diE7 daE8 duE9 siF20 saE1 suE2 tiE3 taE4 tuE5 liE6 la
E7 luE8 jiE9 jaF30 juE1 yiE2 yaE3 yuE4 fiE5 faE6 fuE7 ninF8 nanF9 nunG40 heeF1 haE2 hooF3 ngga
G4 kpeeG5 woE6 huanG7 mbeeG8 koE9 wvaG50 puE1 peE2 henF3 hinF4 looF5 teE6 gbaF7 ngonG8 nyanG9 men
G60 nyonG1 wviF2 mbaF3 joE4 ndoF5 keeF6 poE7 ndooG8 piE9 toF70 gboF1 gbooG2 mbeF3 leE4 kpuF5 fe
E6 kooF7 voE8 feeF9 soF80 yeE1 peeF2 ngguG3 heeiG4 leeF5 veE6 long nggeL7 hunF8 foE9 deeG90 nggi
G1 teeF2 kpaF3 gbeeG4 monF5 keE6 heE7 beE8 nyenG9 paG100 eD1 fanF2 pooF3 booF4 tooF5 long mboo
L6 long nggooM7 gbeF8 kpeF9 yeeG10 long leJ1 gaE2 kpooG3 jeE4 wooF5 nggeeH6 seE7 nenF8 weE9 nde
G20 nggoG1 yoE2 mbuF3 ndiF4 gbiF5 nduF6 weeF7 ngguaH8 hoouG9 ndaG30 hanF1 inE2 kpiF3 fooF4 njoo
G5 inE6 sooF7 eiE8 boE9 wveG40 hoE1 yooF2 long mboK3 weiF4 vooF5 mbiF6 nggeG7 oD8 gbuF9 njeeH50 bee
F1 vuE2 njaF3 loE4 muanG5 giE6 nggooH7 jeeF8 kpoF9 nggaaI60 jooF1 long mbeK2 seeF3 eeE4 nyinG5 oo
E6 gueiG7 guanG8 guE9 nonG70 nyunG1 raE2 mbooG3 veeF4 mboF5 long joJ6 hiE7 nguanH8 enE9 kuaG80 doo
F1 doE2 viE3 long nggoL4 ngenG5 vaE6 huE7 mbuuG8 mbeeG9 muenH90 geeF1 ndeeG2 njuF3 honF4 wuiF5 an
E6 siaF7 fuaZDorah with nine branchesXs symbolJrcuryEoitic cursive fraction eight twelfths
Nleven twelfthsPfive twelfthsMour twelfthsNnine twelfthsNone halfEtwelfthLseven twelfths
Nix twelfthsMten twelfthsLhree twelfthsNwo twelfthsVletter aArchaic saKbaCdaCeBhhaDiBkaBhaDlaCmaCna
BeCoBpaCqaCraCsaBeCtaBeBoCwaCyaIogogram imnDrmtMnumber eightA hundredA thousandQthousandJy thousand
PfiftyA thousandMveA hundredA thousandQthousandMortyA thousandMurA hundredA thousandQthousandNnine
A hundredA thousandQthousandJty thousandPoneA hundredA thousandQthousandMsevenA hundredA thousand
QthousandJtyA thousandPixA hundredA thousandQthousandJtyA thousandOtenA thousandLhirtyA thousand
NreeA hundredA thousandQthousandNwentyA thousandNoA hundredA thousandQthousand
ZChieroglyphic letter aBbaA-2EdaCeBhhaDiBkaBhaDlaCmaCnaA-2DeA-2EoBpaCqaCraA-2EsaA-2DeCtaA-2DeA-2Do
CwaCyaJsymbol vidjA-2ZHpersonHssage waitingNtrical breveFlong over shortFtwo shortsUpentaseme
Jshort over longPtetrasemeIrisemeGwo shorts joinedGover longZAoEiao letter ahBrchaic maCnaBgaDzza
LbaBriDdaBdaClhaByaEzaBhaCyiCzaEfaCgaBhaBhaEhaBhaDkaClaBhaByaDyaDmaBhaDnaAsalizationLgaBhaDhaCnaBha
DyaBhaEpaBlaDqaBgaDreformed tone-1B2B4B5B6B8FshaMteDsaBhaCsaCyiDtaBeBlhaByaEone-2B3B4B5B6B7B8FsaBe
BhaCsaDtaDvaBfaDwaCxaCyi dzhaEkaCnnaDpaCtaBsaBhaDtaGzaBhaCsaBhaDzaBsaByaDyaLsign aspiration
Kconsonant modifier barWreformed aspirationKvoicingVtone aboveFbelowFrightFtop rightOvowel sign aAa
BeAeChhCiBnAgCuCeAaBiBnAgCrArDiAaAnAgDeBgBiBngCoAngDuCnAgCoAerByCgBoBuCrounded erArLuAaAnAgDeiCiBng
CogCuCvwCwAoCyAiBuiRcr dash symbolLon us symbolNo signFbeCphoneFscopeIddle dot
Dthird white right pointing indexZLline horizontal ellipsisZAlitary helmetGmedalLky wayGl sign
HnibusDdiscEmizeFus signA in triangleLwith comma aboveLdot belowJfalling dotsMrising dotsVtilde
G-or-plus signPyCrrorA ballKmspDobile phoneA offDwith rightwards arrow at leftZPdelsCrn pentathlon
Oi abbreviation signRdandaEigit eightFfiveDourEnineEoneDsevenEixDthreeEwoDzeroJouble dandaMletter a
AaBiBuCbaBhaDcaBhaDdaBdaBhaDhaDeBgaBhaDhaCiAiCjaBhaDkaBhaDlaBlaDmaCnaBgaCnaCyaDoBpaBhaDraCsaBhaCsa
DtaBhaCtaBhaEuAuCvaBocalic lAlCrArKyaJsign anusvaraHrdhacandraLhuvaEviramaEsargaMvowel sign aaBiBu
CeBiAiCoBuAuCvocalic lAlCrArWfier breve with inverted breveZAletter acute accentLlveolar click
NpostropheKbegin high toneJlow toneNilabial clickOcapital aAeCbAarred bIcBdBeBfBgBhA with strokeNi
BjBkBlBmBnBoAuCpBqBrAeversed eBnKtBuBvBwIentred left half ringOright half ring
Whinese tone yang pingEquCruCshangJin pingEquCruCshangVircumflex accentQolonEross accentLyrillic en
Chard signJsoft signSdental clickLot horizontal barOslashFvertical barOuble apostropheKprime
Kwn arrowheadJtackJend high toneJlow toneLxtra-high dotted left-stem tone barStone bar
Pleft-stem tone barStone barNlow dotted left-stem tone barStone barPleft-stem tone barStone bar
Sgeorgian narLlottal stopA with strokeXrave accentMhalf triangular colon
Uigh dotted left-stem tone barStone barPleft-stem tone barStone barNlateral clickMeft arrowhead
Jhalf ringJtackIow acute accentMcircumflex accentRdotted left-stem tone barStone barNwn arrowhead
Ograve accentMinverted exclamation markZAleft arrowAheadK-stem tone barSmacronGright arrowheadNng
EtildeEone barIup arrowheadMvertical lineOer right corner angleYmacronFid dotted left-stem tone bar
Stone barPleft-stem tone barStone barJdle double acute accentMgrave accentTgrave accentRnus sign
Kopen shelfKplus signIrimeFraised colonFdown arrowKexclamation markQinverted exclamation mark
ZAup arrowOetroflex click with retroflex hookZIversed commaFglottal stopA with strokeZHhotic hook
Kight arrowheadJhalf ringJtackKshelfDort equals signQmall aAeBinClphaFbA with hookKarred oHeta
Dottom half oNcA with curlKapital aaCbBgA with hookLhBiA with strokeMnverted rKlA with beltLnBoeCr
BuByIhiClosed omegaFreversed open eWdA with hookA and tailNtailKeltaDzh digraph
Lotless j with strokeA and hookZEz digraphA with curlEretroflex hookZFeAngCshCthCzhDfAeng digraphMg
A with hookKammaEreek gammaFphiJhA with hookEstrokeMengA with hookOi with strokeMotaEj
A with crossed-tailTkBlA with beltEinverted lazy sPmiddle tildeMpalatal hookMretroflex hook
A and beltZEezhA with retroflex hookXigature oeKs digraphJz digraphKmA with hookLn with left hook
Jretroflex hookVoA with strokeMpen eBoGpAhiDqBrA with fishhookItailKams hornIeversed eBglottal stop
Mopen ePsA with curlEhookKchwaDript gHideways uKtA with palatal hookMretroflex hook
Uc digraph with curlTesh digraphLhetaEop half oJs digraphA with retroflex hookZEurned aAeBlphaFhBi
BmA with long legPopen eGrA with hookElong legA and retroflex hookZJvBwByA with beltSuA bar
Dwith left hookPpsilonHvA with hookEright hookRwBxByBzA with curlEretroflex hook
ZBtress and high toneJlow toneSuperscript half triangular colonVtriangular colonZDtriangular colon
Purned commaMunaspiratedKp arrowheadJtackGsCvertical lineMoicingHyang departing tone mark
Xin departing tone markZLulo two sumMney bagDwith wingsL-mouth faceNgolian birga
A with double ornamentPornamentTcolonDmmaFdigit eightFfiveDourEnineEoneDsevenEixDthreeEwoDzero
Jouble birga with ornamentZBellipsisIfour dotsIree variation selector fourEoneDthreeEwoZBull stop
Jinverted birgaA with double ornamentZKletter aAli gali aAhBnusvara oneMbaludaGcaCdaAgalgaFmaruFda
Dhalf uByaHiAnverted ubadamaQkaCngaCnaDpaBhaDssaDtaBhree baludaLtaBhaEubadamaHvisarga oneLzaBhaLng
DbaCchaA with two dotsPiDdaCeAeCfaCgaChaaDiBjaCkaBhaDlaBhaDmaAnchu ali gali bhaDcaByaDddhaDhaDgha
DjhaDlhaDngaDssaDtaBtaDzaBhaMfaCiBkaCraCzhaKnaCoAeCpaCqaCraCsaBhaCibe angDchaDdaCeBfaCgaAaDhaAaDiAy
CjaCkaCpaCraaDshaDtaBsaDuAeCzaBhaItaBodo ali gali taCzhaLngDbaCchaDdaBzaDeBgaAaDhaaDiBjaBiaDka
Clong vowel signPmaCniaDoAeCpaCqaCtaBsaDuAeCwaCyaGsaDuAeCwaCyaCzaBhiCraKmanchu commaFfull stop
QniruguGrotated birgaA with double ornamentPornamentZCsibe syllable boundary markerZDwirl birga
A with double ornamentPornamentZAtodo soft hyphenPriple birga with ornament
ZAurned swirl birga with double ornamentZOvowel separatorWkeyA faceIogram for earthFyangDinMrail
Estable symbolPod bubbleIn cakeEviewing ceremonyTsqueBitoGther christmasNor boatEscooter
Iized wheelchairPwayGunt fujiFainA bicyclistJcablewayIrailwayNseA faceEtrapHthDvie cameraKyai
Ero dandaEigit eightFfiveDourEnineEoneDsevenEixDthreeEwoDzeroJouble dandaMletter aBbaCchuDdaAiDeAa
ChaiBoDkeaaeEhaiDoClaAnDmaemDimDngiCinDoAlBoCpaBhiDriBoCshiDtaBekCheaEwaCyoMuch greater-than
Mless-thanMltani letter aBbaBhaDcaBhaDdaBdaBdaChaDhaDeBgaBhaDhaCiBjaBjaDkaBhaDlaCmaCnaBnaCyaDpaBha
DraBhaCraDsaCtaBhaCtaBhaEuBvaCyaJsection markQimapDple musical notesPication signA in double circle
Nleft half circleQright half circleRtriangleLwith dot aboveJunderbarSxLsetA multiplicationOunion
MshroomFic flat signJnatural signMsharp signLal keyboardA with jacksTnoteEscore
Eymbol arpeggiato downEupNbegin beamEphraseGslurEtieIraceBketFeath markIveBisA restLc clefFaesura
Gircle x noteheadQlimacusFvisEuster notehead blackFwhiteVodaCmbining accentA-staccato
Ougmentation dotQbendEdoitCuble tongueLwn bowIflag-1B2B3B4B5EipEharmonicIloureFmarcatoA-staccato
QripDsmearEnap pizzicatoNprechgesang stemQtaccatissimoGoGemEtenutoFremolo-1B2B3Hiple tongueNup bow
Nmon timeKrescendoHoixEut timeIda capoFl segnoHmpA allGshed barlineNecrescendoJgree slash
Louble barlineHflatEsharpLrum clef-1B2Leighth noteErestKnd beamEof stimmeJphraseGslurEtieHf clef
A ottava altaEbassaSermataA belowMinal barlineKgered tremolo-1B2B3Qve-line staffOlat downEupGorte
Dur-line staffKstring fretboardUusa blackFwhiteKg clefA ottava altaEbassaSlissando downEup
Lrace note no slashIslashOegorian c clefGf clefQhalf noteEpedal markKrestHuptstimmeLinverted turn
Nkievan c clefGeighth note stem downEupSnd of pieceMfinal noteJlat signJhalf note
Jquarter note stem downEupUrecitative markPwhole noteQoronFleft repeat signPongaA imperfecta rest
Pperfecta restTmaximaFezzoEinimaA blackFrestKoon notehead blackFwhiteSulti restFple measure rest
Vnatural downEupJebenstimmeKotehead blackNull noteheadNone hundred twenty-eighth noteErest
ZC-line staffNrnament stroke-1A0B1C2B3B4B5B6B7B8B9Qttava altaEbassaMparenthesis noteheadTedal mark
Eup markLs subpunctisNianoElus noteheadModatusFrrectusA flexusQquarter noteErestEtone flatEsharp
Qindicesima altaEbassaSrepeat dotsFed figure-1B2B3Pverse final barlineUight repeat signPnforzando
LscandicusA flexusPegnoDmibrevis blackFrestEwhiteMminima blackFrestEwhitePharp downEupGort barline
Mingle barlineMx-line staffKstring fretboardRteenth noteErestKy-fourth noteErestQoriDquare b
Bnotehead blackFwhiteUubitoGtempus imperfectum cum prolatione imperfectaA diminution-1B2B3Xperfecta
ZKperfectum cum prolatione imperfectaKperfectaA diminution-1ZZChirty-second noteErest
Qree-line staffPorculusA resupinusRrAiangle notehead down blackFwhiteKleft blackFwhiteKright black
FwhiteLup blackFright blackFwhiteLwhiteS-round notehead down blackFwhiteZIurnA slashFup
Gwo-line staffOvirgaEoid noteheadNwhole noteErestJith fingernailsQx noteheadKzPvsCw
Byanmar consonant sign medial haCraCwaCyaIon medial laCmaCnaNshan medial waZEdigit eightFfiveDour
EnineEoneDsevenEixDthreeEwoDzeroKletter aAiton raHuCbaBhaDcaBhaDdaBdaBhaDhaDeAastern pwo karen ghwa
EnnaDywaVgaBhaCreat saIhaCiAiCjaBhaDkaBhaAmti caBhaDddaBhaDhaDfaCgaChaBhaDjaBhaDllaDnaByaDraCsaCtta
BhaExaCzaJlaBlaDmaBon bbaBeDeBjhaDngaHnaBgaCnaByaDyaDoBpaBhaDraBumai palaung faQsaBgaw karen shaNha
An aBbaBhaDcaBhaDdaCfaCgaBhaDhaCjhaDkaBhaDnaBnaCyaDphaDthaDzaFwe palaung chaDshaPsaDtaAi laing ba
BhaDdaBdaBhaDhaDfaCgaBhaDjaBhaDllaDnnaCyaMhaCtaBhaEuAuCvocalic lAlCrArKwaBestern pwo karen pwaDtha
VyaIogogram khamti hmCoayDqnSmodifier letter khamti reduplicationUshan reduplication
ZJshan digit eightFfiveDourEnineEoneDsevenEixDthreeEwoDzeroOign anusvaraHsatEdot below
Jkhamti tone-1B3Nlittle sectionOpao karen toneOrumai palaung tone-5Usection
Ghan council emphatic toneNtone-2B3OsawDtone-2B3B5B6Ltai laing tone-2B5QviramaEsarga
Hwestern pwo karen tone-1B2B3B4B5ZDymbol aforementionedNiton exclamationLoneDtwoJcompletedJgenitive
IlocativeIshan exclamationLonePtai laing digit eightFfiveDourEnineEoneDsevenEixDthreeEwoDzero
Tone mark sgaw karen hathiFke phoZCvowel sign aaBiAton aAiIeA aboveHgeba karen iMiAiCkayah eeCoeCu
Hmon iiCoFsgaw karen euMhan aaCeA aboveHfinal yMtall aaHuAuCvocalic lAlCrArKwestern pwo karen euCue
ZOn-ary circled dot operatorMplus operatorNtimes operatorVoproductJintersectionMlogical andDor
KproductHsquare intersection operatorVunion operatorUummationJtimes operatorOunion
A operator with dotDplusYwhite vertical barXabataean cruciform number fourVletter alephEyinEbeth
EdalethGfinal alephFbethEheCkaphElamedhGmemDnunDshinEyodhKgimelFheAthEkaphElamedhGmemDnunDpeCqoph
EreshEsadheDmekhFhinEtawCethEwawDyodhEzayinMnumber fiveDourEoneA hundredLtenChreeEwentyEoRla
Dil polishIra signIkBme badgeIndAinagari headstrokeKletter aAaBiBuCbaBhaDcaBhaDdaBdaBhaDhaDeBgaBha
DhaCiAiCjaBhaDkaBhaDlaBlaDmaCnaBgaCnaCyaDoBpaBhaDraBraDsaBhaCsaDtaBhaCtaBhaEuAuCvaBocalic rArKya
Jsign anusvaraHvagrahaIsiddhamHviramaEsargaMvowel sign aaBiBuCeBiAiCoBprishthamatra ePuAuCvocalic r
ArZGrrow no-break spaceTtional digit shapesMparkLuseated faceMzar amuletLbhBspDecktie
Fgated double vertical bar double right turnstileZUive acknowledgeLcircled digit zero
Klatin capital letter aBbBcBdBeBfBgBhBiBjBkBlBmBnBoBpBqBrBsBtBuBvBwBxByBzWnumber eighteenHleven
GfifteenGourteenInineteenIseventeenIixteenHthirteenHwelveDntyNsquareGtriangleQdiagonal cross
FdiamondHmiddle right to lower centreZMsquared abCcross markKicClatin capital letter aBbBcBdBeBfBg
BhBiBjBkBlBmBnBoBpBqBrBsBtBuBvBwBxByBzWpaCquestion markNsaCwcRither a subset of nor equal to
Uperset of nor equal toZApproximately nor actually equal toZKgreater-than nor equal toFivalent to
Nless-thanZBless-than nor equal toFivalent toNgreater-thanZHlBptuneA form twoOrd faceHssus
Dt with eggsKing dollsLuterCral chess bishopA rotated ninety degreesOtwo hundred seventy degrees
ZRequihopperA rotated ninety degreesZIkingA rotated ninety degreesOtwo hundred seventy degrees
ZOnightA rotated forty-five degreesSninety degreesOone hundred thirty-five degrees
ZGthree hundred fifteen degreesZDwo hundred seventy degreesPtwenty-five degreesZVpawn
A rotated ninety degreesOtwo hundred seventy degreesZPqueenA rotated ninety degrees
Otwo hundred seventy degreesZQrookA rotated ninety degreesOtwo hundred seventy degrees
ZPturned bishopGkingDnightGpawnEqueenFrookRfaceKw lineEmoon symbolGwith faceOsheqel sign
Ltai lue digit eightFfiveDourEnineEoneDsevenEixDthreeEwoDzeroKletter final bBdBkBmBnAgCvHhigh baCda
CfaChaCkaBvaDlaCmaCnaBgaDpaBhaDqaCsaBuaDtaBhaCsaDvaCxaBvaDyaHlow baCdaCfaChaCkaBvaDlaCmaCnaBgaDpa
BhaDqaCsaBuaDtaBhaCsaDvaCxaBvaDyaNsign laeAvJtham digit oneNone mark-1B2Lvowel sign aaAyCeByCeBiiBy
CoAaAyCyCuAeAyCuByCvowel shortenerZKa abbreviation signRcommaFdandaEigit eightFfiveDourEnineEone
DsevenEixDthreeEwoDzeroJouble commaFdandaMgap fillerKinsertion signOletter aAaBiBuCbaBhaDcaBhaDda
BdaBhaDhaDeBgaBhaDhaCiAiCjaBhaDkaBhaDlaBhaDmaBhaDnaBgaBhaDhaCnaCyaBhaEoBpaBhaDraBhaDsaBhaCsaDtaBha
CtaBhaEuAuCvedic anusvaraNocalic lAlCrArKwaCyaJomCplaceholder markQsandhi markKiddhiEgn anusvara
HvagrahaIcandrabinduLfinal anusvaraOjihvamuliyaLnuktaFupadhmaniyaLviramaEsargaMvowel sign aaBiBuCe
BiAiCoBuAuCvocalic lAlCrArXline leftErightKspaperHxt lineEpageIight with starsOnja
Eko combining double dot aboveQlong descending tonePhigh toneJlow toneIrising tone
Qnasalization markRshort high toneJlow toneIrising toneYmaFdantayalanJigit eightFfiveDourEnineEone
DsevenEixDthreeEwoDzeroJorome signLexclamation markQhigh tone apostropheUlajanyalanJetter aBbaCcha
DdaAgbasinnaKeAeCfaCgbaDhaCiBjaBona chaDjaCraHkaClaCmaCnAaA wolosoIyaA wolosoKoAoCpaCraBraDsaCtaCu
BwaCyaIow tone apostropheTsymbol gbakurunenKoo dennenQtaman signNlBnbspEo bicyclesHreak hereKentry
A signKmobile phonesNone under eighteen symbolZApedestriansKiracyGsmoking symbolP-break space
Mminal digit shapesQsma signKn-breaking hyphenPpotable water symbolVforkingIrAdic mark sign
Nmal subgroup ofA or equal toZCth east and south west arrowTrrowA and south east arrow
Ucrossing north west arrowQsouth east arrowZAwith hookPblack arrowLdouble arrowMpointing budDleaf
Evine leafSsans-serif arrowQtriangle-headed arrowA to barZDwhite arrowQindic fraction one eighth
GhalfEquarterHsixteenthNthree quartersIsixteenthsZAplaceholder markQquantity markKrter mark
Mrupee markQwest and south east arrowTrrowA and north east arrowUcrossing north east arrow
ZAto cornerGlong barLwith hookPblack arrowLdouble arrowMpointing budDleafEvine leaf
Ssans-serif arrowQtriangle-headed arrowA to barZDwhite arrowReast-pointing airplaneZAse
Ct a subset ofHperset ofMlmost equal toOn element ofMsymptotically equal toXcheck markKequal to
Fivalent toNgreater-thanMidentical toMless-thanJnormal subgroup ofA or equal toZFparallel toLsign
Dquare image of or equal toUoriginal of or equal toZFtildeErueFched left semicircle with three dots
ZFower right-shadowed white rightwards arrowZSright semicircle with three dots
ZHupper right-shadowed white rightwards arrowZXeA padBgeFbookA with decorative coverZEulAl
Cmber eighteen full stopRleven full stopQfifteen full stopQourteen full stopSnineteen full stop
Sseventeen full stopSignCxteen full stopRten full stopMhirteen full stopRwelve full stop
Nnty full stopUero signJshu character-1b170B1B2B3B4B5B6B7B8B9BaBbBcBdBeBfC80B1B2B3B4B5B6B7B8B9BaBb
BcBdBeBfC90B1B2B3B4B5B6B7B8B9BaBbBcBdBeBfCa0B1B2B3B4B5B6B7B8B9BaBbBcBdBeBfCb0B1B2B3B4B5B6B7B8B9BaBb
BcBdBeBfCc0B1B2B3B4B5B6B7B8B9BaBbBcBdBeBfCd0B1B2B3B4B5B6B7B8B9BaBbBcBdBeBfCe0B1B2B3B4B5B6B7B8B9BaBb
BcBdBeBfCf0B1B2B3B4B5B6B7B8B9BaBbBcBdBeBfD200B1B2B3B4B5B6B7B8B9BaBbBcBdBeBfC10B1B2B3B4B5B6B7B8B9Ba
BbBcBdBeBfC20B1B2B3B4B5B6B7B8B9BaBbBcBdBeBfC30B1B2B3B4B5B6B7B8B9BaBbBcBdBeBfC40B1B2B3B4B5B6B7B8B9Ba
BbBcBdBeBfC50B1B2B3B4B5B6B7B8B9BaBbBcBdBeBfC60B1B2B3B4B5B6B7B8B9BaBbBcBdBeBfC70B1B2B3B4B5B6B7B8B9Ba
BbBcBdBeBfC80B1B2B3B4B5B6B7B8B9BaBbBcBdBeBfC90B1B2B3B4B5B6B7B8B9BaBbBcBdBeBfCa0B1B2B3B4B5B6B7B8B9Ba
BbBcBdBeBfCb0B1B2B3B4B5B6B7B8B9BaBbBcBdBeBfCc0B1B2B3B4B5B6B7B8B9BaBbBcBdBeBfCd0B1B2B3B4B5B6B7B8B9Ba
BbBcBdBeBfCe0B1B2B3B4B5B6B7B8B9BaBbBcBdBeBfCf0B1B2B3B4B5B6B7B8B9BaBbPiteration markSt and bolt
Lyiakeng puachue hmong circled caKdigit eightFfiveDourEnineEoneDsevenEixDthreeEwoDzeroKletter aAa
CcaCdaBlaDeAeCfaCgaChaAhDiBkaClaCmaBlaDnaBcaCkaCpaBlaDqaCraCtaBsaCxaDyaDoAoCpaBlaDqaCraBraDsaCtaBsa
CxaDuBvaCwBxaByaDyaCzaIogogram nyajNsign for animalGinvertebrateMlocationIpersonGthingJxw xw
Jyllable lengthenerTtone-bBdBgBjBmBsBvZEobject replacement characterZBlique angle opening downEup
QhyphenMserver eye symbolScr amount of checkPbelt buckleKow tieGranch bank identificationZBchair
Eustomer account numberXdashDouble backslashQforkEhookEinverted forkPtagonal signLopusGden
Dffice buildingOgham feather markMletter ailmEbeithFceirtEollEdairEeabhadhFdhadhFmhanchollLfearn
FgortEifinDodhadhHluisEmuinEngeadalGionEonnCrCpeithFruisEsailDtraifGtinneFuathDilleannHr
Jreversed feather markVspace markOonekFhm signHil drumHk hand signLl chiki ahadEdigit eightFfive
DourEnineEoneDsevenEixDthreeEwoDzeroKgaahlaa ttuddaagQletter aajBkBmBwCgBlBngCtCeddCnBpBrrDihBnyCr
BsClaAaCeBiBoBuCobBhBttCvCucBdBnnCyJmu ttuddagI-gaahlaa ttuddaagTphaarkaaHunctuation double mucaad
NmucaadSrelaaMd chinese hook markJiteration markWhungarian capital letter aAaBkBmbCndDclose eHeAbBc
AhBsCdBeBfBgAyChBjBkBlAyCmApCnAcBtA-shaped signNyCpBrBsAzCtAyCvBzAsDiAiCnikolsburg oeCueNoAeeCo
Crudimenta oeCueMshort erIuAnkCsBuRnumber fiftyDveEoneA hundredHthousandMtenKsmall letter aAaBkBmb
CndDclose eHeAbBcAhBsCdBeBfBgAyChBjBkBlAyCmApCnAcBtA-shaped signNyCpBrBsAzCtAyCvBzAsDiAi
Cnikolsburg oeCueNoAeeCoCrudimenta oeCueMshort erIuAnkCsBuZAitalic letter aBbeCcheDdeCeAfBksClBmBn
BrAsCsAhBsDheCiAiCkaBeBheCuCnorthern tseMoBpeBheDsheCouthern tseMteBheDuAuCveCyeCzeJnumeral fifty
DveEoneDtenSkeyDnorth arabian letter ainClefEbehDdadBlDes-1B2B3EfehDgeemDhainFhahCehDkafChahElam
DmeemEnoonEqafDrehDsadDtahCehChalCehEwawDyehDzahBinLnumber oneDtenCwentyZCpermic letter anCbur
DcheryFdoiCzhoiDitaFeAfCgaiDhaCiAaBeCkokeEleiDmenoeFnenoeFoAoCpeeiEreiDshchooiFooiEiiDtaiCsiuEuBver
CooiEyaAtCerAiBuDryCuCzataDhoiPsian number hundredHoneDtenCwentyEoKsign aAuramazdaaA-2ChaMbaAga
DuumishHcaCdaAhyaaushA-2KiBuCfaCgaBuChaCiBjaBiCkaBuClaCmaBiBuCnaBuCpaCraBuCsaBhaCsaDtaBhaCuCuBvaBi
CxaBshaayathiyaMyaCzaHword dividerQonal computerRsogdian fraction one halfRletter aleph
Dternate ayinNyinEbethEfinal alephFbethEheCnunA with vertical tailWsadheA with vertical tailYtaw
A with vertical tailZDgimelFheAthEkaphElamedhGmemDnunDpeCresh-ayin-dalethQsadheDmekhFhinEtawDwaw
DyodhEzayinLigature ayin-dalethUnumber fiveDourEoneA hundredLtenChirtyEreeEwentyEo
Quth arabian letter alefDynDbethEdalethFhadheDlethHfeCghaynEimelFheAthEkaphDhethFlamedhGmemDnun
DqophEreshEsadheDmekhEtChinEtawCethDhawCethFwawDyodhEzaynLnumber fiftyFoneHeric indicator
ZGturkic letter orkhon aAbBdBebBdBgBkBlBnBrBsBtByCgBlBnBqBrBsAhCtByCbashEecBltCmBncBgBtByCpBshCzCi
AcBqCoAeAkCpBqBtJyenisei aAbBdBeAbBgBkBnAgCtByCgBlBngCqBrBshCtByCeAcBncBtByCshCzCiAqCoeAkCq
Yuyghur combining dot aboveFbelowJtwo dots aboveFbelowYletter alephFbethEfinal hethKgimel-hethKkaph
ElamedhFeshEmemDnunDpeCreshEsadheDmekhFhinEtawDwawDyodhEzayinMpunctuation barDfour dotsJtwo bars
EdotsZDer adultFmanDwomanJiveEm symbolIn with exclamation mark with left right arrow above
ZZAcoming automobileKbusDfire engineLpolice carKtaxiLe button mouseMdot leader
Gover two dots punctuationZF-piece swimsuitQionEpen bookCxDcentre asteriskIblack starKcross
Fteardrop-spoked asteriskZGfile folderKolderGhands signKlockEmailbox with lowered flagMraised flag
YsubsetEpersetJ-circuit-output h-type symbolNl-type symbolZDoutlined rightwards arrow
ZCrating system commandWhiuchusHpositionItical discA iconNon keyJr with dot insideQange bookEheart
HutanHiginal ofIya ai length markNu length markOdigit eightFfiveDourEnineEoneDsevenEixDthreeEwo
DzeroKfraction one eighthGhalfEquarterHsixteenthNthree quartersIsixteenthsZAissharGletter aAaBiBu
CbaBhaDcaBhaDdaBdaBhaDhaDeBgaBhaDhaCiAiCjaBhaDkaBhaDlaBlaDmaCnaBgaCnaCyaDoBpaBhaDraBhaCraDsaBhaCsa
DtaBhaCtaBhaEuAuCvaBocalic lAlCrArKwaCyaByaKsign anusvaraHvagrahaIcandrabinduLnuktaFoverlineIvirama
EsargaMvowel sign aaBiBuCeBiAiCoBuAuCvocalic lAlCrArZAnate left parenthesisQright parenthesis
Wthodox crossNsage capital letter aAhBiAnDbraDchaDdhaDeAhchaDkaCpaCtaBsaEinDghaDhaByaDiBkaBhaCyaDla
CmaCnaCoAinDpaCsaBhaDtaBsaBhaEuBwaCzaBhaSsmall letter aAhBiAnDbraDchaDdhaDeAhchaDkaCpaCtaBsaEinDgha
DhaByaDiBkaBhaCyaDlaCmaCnaCoAinDpaCsaBhaDtaBsaBhaEuBwaCzaBhaUcBmanya digit eightFfiveDourEnineEone
DsevenEixDthreeEwoDzeroKletter aAaBlefEbaCcaynEdeelDhaDeAeCfaCgaChaCiBjaCkaafDhaDlaanEmiinEnuunEoAo
CqaafEraCsaBhiinFtaCuBwawDxaCyaQtterComan siyaq alternate number eightFfiveDourA hundredMnineEseven
EixA hundredLtenA thousandLhreeEwoA thousandZEfraction one halfEsixthSmarratanInumber eight
A hundredHthousandJyA thousandPfiftyA thousandMveA hundredHthousandMortyA thousandMurA hundred
HthousandNnineA hundredHthousandJtyA thousandPoneA hundredHthousandMsevenA hundredHthousandJty
A thousandPixA hundredHthousandJtyA thousandOtenA thousandLhirtyA thousandNreeA hundredHthousand
NwentyA thousandNoA hundredHthousandZHunce signItbox trayIlined black starKgreek crossLlatin cross
Lwhite starSverheated faceLlapAping black squaresNwhite and black squaresRsquaresUineHwlCxByster
GpackageFdAding characterPgeA facing upJwith circled textLurlKrBsCodaEhawh hmong clan sign fajDham
BwjEkhabDooCwmDlaujDisDmuasEphabEthojDsabCheejEwbEvajCwjDxyoojFyajCeegNonsonant auCcauChauEhauClau
DnauElauDmauDnauCchauEkauDlauDthauDsauFplhauFqhauErauDvauDxauDyauNdigit eightFfiveDourEnineEone
DsevenEixDthreeEwoDzeroKmark cim homDkesChavEsoBuamEtaumDubMnumber hundred millionsJsImillions
Iten billionsIthousandsKsDrillionsQsign avCcim cheemEuam tshoojLhais lus ntog ntogSnres tos
Ipub dawbItsov rogHxwvA chwvNhliCnubEib yamGlosDmeej suabEtseebJusDnqigDtujEtauChird-stage hli
Oxheej ceevLvos feemElubDnruaEseevEthiabDomDshab ceebOxausDiabDyeem faibEntxivFrhoDtovHooEzwj thaj
Nvowel kaabBvCbBibBvCubBvCvBwbBvDebBebBvCvCiabBvCbBvCobBobBvCvCuabBvCbBvCwbBvUllasDm branch
Gdown handJtreeEup handIs up togetherNyrene left-pointing fleuronTtter alephEyinEbethEdaleth
Gfinal nunJgimelFheAthEkaphElamedhGmemDnunDpeCqophEreshEsadheDmekhFhinEtawCethEwawDyodhEzayin
Mnumber fiveDourEoneDtenChreeEwentyEoKright-pointing fleuronZFncakesFda faceIperclipHrachute
Fgraph separatorKosCus markMllel toCwith horizontal strokeRtilde operatorZAenthesized digit eight
FfiveDourEnineEoneDsevenEixDthreeEwoJhangul chieuchA aIieucA aBuHhieuhA aHieungA aHkhieukhA aIiyeok
A aImieumA aHnieunA aHphieuphA aIieupA aHrieulA aHsiosA aGthieuthA aIikeutA aPideograph alliance
IcallDongratulationOearthEightEnterpriseKfestivalHinancialHreCveDourEhaveElaborFmetalEoonEnameDine
EoneDreachDpresentHsourceFtEselfCvenEixCocietyGpecialGtockDudyEunBperviseJtenChreeEwoDwaterEood
Okorean character o huDjeonWlatin capital letter aBbBcBdBeBfBgBhBiBjBkBlBmBnBoBpBqBrBsBtBuBvBwBxBy
BzQsmall letter aBbBcBdBeBfBgBhBiBjBkBlBmBnBoBpBqBrBsBtBuBvBwBxByBzUnumber eighteenHlevenGfifteen
GourteenInineteenIseventeenIixteenHtenChirteenHwelveDntyYrotDt alternation markRial differential
Mline backwardIdownEforwardHupIly-recycled paper symbolZCnership signMy popperKssed symbol
Inger shipKive-pull-down-output symbolSup-output symbolZAport controlOu cin hau glottal stopA final
FvariantUletter aBbaCcaBhaDdaCeBfaBinal kBlBmBnAgCpBtBwByHgaChaCiAaCkaBhaDlaCmaCnaBgaDoBpaBhaDraCsa
CtaBhaDuAaCvaCzaIow-falling toneA finalFlongA finalZCmid-level toneA finalFlong finalZArising tone
A finalFlongA finalWsandhi glottal stopA finalStoneA finalFlongA finalZHw printsJdfBiCeace symbolIh
BockEnutsErCdestrianIn over stamped envelopeWcilDguinEsive faceJtagramHople huggingMr mille sign
KsignEten thousand signScent signJforming artsMmanent paper signRpendicularA with sRsevering face
Mon bowing deeplyNclimbingIdoing cartwheelPfrowningIin lotus positionOsteamy room
Oraising both hands in celebrationZIwith ballDlond hairKcrownFfolded handsMheadscarfJpouting face
Sal computerNpectiveJseta signIo signHtri dishJhags-pa double head markQletter aAlternate ya
Lspirated faMbaCcaAndrabinduKhaDdaBdaCzaDeAeCfaCgaBgaDhaCiBjaCkaBhaDlaCmaCnaBgaCnaCyaDoBpaBhaDqaCra
CsaBhaCmall aHtaBhaCsaBhaDtaBhaEuBvoiced haEless shaNwaCxaCyaCzaBhaKmark double shadLshad
Jsingle head markPubjoined letter raCwaCyaRperfixed letter raZBistos disc sign arrowFbeeAhive
GoomerangHwCulls legJcaptiveFrpentry planeNtChildElubDolumnEmbAining oblique strokeYdoliumEveEeagle
FfluteFgauntletHraterGhelmetFideDornElidBlyEmanaclesGttockHox backHpapyrusGedestrianJlane tree
Iumed headLramCosetteHsawChieldDpDlingEmall axeItrainerItattooed headMiaraEunnyFvineEwavy bandIoman
Wilippine double punctuationSsingle punctuationZCoenician letter ainClfDbetDdeltEgamlEheAtDkafDlamd
EmemDnunDpeCqofDroshEsadeDemkDhinEtauCetDwauDyodDzaiKnumber oneA hundredLtenChreeEwentyEo
Kword separatorWlusFickAup truckKeBgA faceEnoseGlcrow signJe of pooIlCnataDched fingersKing hand
Ke decorationLappleGwheel starLscesDtolEtchforkA with tee topVlacardDe of interest signNworship
Nnck constantA over two piYyground slideMing card ace of clubsFdiamondsIheartsGspadesNback
Dlack jokerLeight of clubsFdiamondsIheartsGspadesPfive of clubsFdiamondsIheartsGspadesNool
Cur of clubsFdiamondsIheartsGspadesOjack of clubsFdiamondsIheartsGspadesOking of clubsFdiamonds
IheartsGspadesNnight of clubsFdiamondsIheartsGspadesQnine of clubsFdiamondsIheartsGspades
Oqueen of clubsFdiamondsIheartsGspadesPred jokerJseven of clubsFdiamondsIheartsGspadesOix of clubs
FdiamondsIheartsGspadesNten of clubsFdiamondsIheartsGspadesMhree of clubsFdiamondsIheartsGspades
Orump-1A0B1B2B3B4B5B6B7B8B9C2A0B1C3B4B5B6B7B8B9Gwo of clubsFdiamondsIheartsGspadesNwhite jokerWdBu
AngerEs signA above equals signRin left half circleQright half circleRtriangleLwith black triangle
Ocircumflex accent aboveXdot belowJsmall circle aboveRubscript twoNtilde aboveFbelowW-minus signMto
A form fiveDourEthreeEwoNmBocket calculatorPlice carAs revolving lightUofficerModle
Ep directional formattingKisolateUcornFrtable stereoNseidonFition indicatorPtal hornEmarkA faceMbox
Ft of foodIable water symbolQtoDted plantKuchCltry legInd signHring liquidLting cat faceIface
Kwer on symbolH-off symbolNsleep symbolLymbolLrayer beadsKecedesA above almost equal toPequals sign
Lnot almost equal toPequal toMsingle-line equals signLnot equal toZFbut not equivalent to
Vor equal toFivalent toQunder relationUgnant manDpersonGwomanLscription take
Nentation form for vertical colonDmmaFem dashGn dashGxclamation markQhorizontal ellipsis
Tideographic commaFfull stopVleft angle bracketNblack lenticular bracketYcorner bracket
Nurly bracketNdouble angle bracketUparenthesisLsquare bracketOtortoise shell bracket
Wwhite corner bracketOlenticular bracketZDow lineIquestion markNright angle bracket
Nblack lenticular bracketYcorner bracketNurly bracketNdouble angle bracketUparenthesis
Lsquare bracketOtortoise shell bracketWwhite corner bracketOlenticular bracketEkcetZFsemicolon
Jtwo dot leaderOwavy low lineZQtzelEvious pageLimeCnceAssEt screen symbolOerA iconJvacy message
Kte use oneDtwoE-1B2Lobing caneJhibited signMjectiveHperty lineJortionAal toMserpina
Jsalter pahlavi four dots with crossFdotSletter alephFbethEdalethGgimelFheAthEkaphElamedhGmem-qoph
InunDpeCsadheDmekhFhinEtawDwaw-ayin-reshNyodhEzayinMnumber fourEoneA hundredLtenChreeEwentyEo
Ksection markMturned section markZJu1B2Bblic address loudspeakerYnctuation spaceLs elevatus mark
Trple heartJseDshpinFt litter in its place symbolZFquadrant lower leftErightLupper left
A and lower left and lower rightUrightLupper right and lower leftErightZLrightA and lower left
A and lower rightZVuple integral operatorRprimeMrter noteJternion integral operator
ZBestion exclamation markQmarkFed equal toRincunxGotation markOrabbitA faceJccoonEing car
DmotorcyclePdical symbol bottomRoA buttonHactive signOilway carDtrackKnAbowEsed back of handMcomma
FdotAted interpolation markerZCfistEhandA with fingers splayedPpart between middle and ring fingers
ZVinterpolation markerUmc signGd signGr signHsquareLmBtAioDzorEeceiptEord separator
Nreational vehicleRycled paper symbolPing symbol for generic materialsRtype-1 plasticsK2 plastics
K3 plasticsK4 plasticsK5 plasticsK6 plasticsK7 plasticsZJd appleFgift envelopePference mark
Mgional indicator symbol letter aBbBcBdBeBfBgBhBiBjBkBlBmBnBoBpBqBrBsBtBuBvBwBxByBzZFstered sign
Njang consonant sign hBnAgCrQletter aBbaCcaCdaCgaChaCjaCkaClaCmaBbaDnaBdaCgaBgaDyaBjaEpaCraCsaCta
CwaCyaJsection markMviramaFowel sign aiBuCeAaBuCiBoBuRlieved faceLminder ribbonNplacement character
TsponseFtricted left entry-1B2SoomGturn leftErightFsymbolLverse checker boardNindex
Flight four pointed pinwheel starZFne feedJsolidusA operatorIpreceding subset
Qwith horizontal strokeZFtilde operator above leftwards arrowPrightwards arrowZNd angle
A with underbarTcommaFdouble primeA quotation markUstroke not signWempty setJforked paragraphos
Shand with middle finger extendedZHnot signIpilcrow signLrimeFquestion mark
Nraised hand with fingers splayedZGight angleKotated floral heart bulletZCsans-serif capital l
TemicolonJthumbs down signJup signNildeA equalsLriple primeMvictory handSolving heartsPhinocerosJi
Aal signHbbonA arrow down leftErightKleft downEupHright downEupIup leftErightTce ballEcrackerKfle
Dght and lower one eighth blockWupper one eighth blockYger bubbleJleA bracketA with dot
Qdotted substitution markerZBsubstitution markerTvariant with squareTwith arc
Ddownwards zigzag arrowZHrc greater-than bracketWrow with circled plusMsmall circle
Xblack lenticular bracketStortoise shell bracketZDceilingGorner bracketNurly bracketA lower hook
Kmiddle pieceMupper hookYdotted substitution bracketZAuble angle bracketMrrow with rounded head
XparenthesisLquotation markOwiggly fenceTfish tailHve eighths blockRloorFhalf black circleGstarIock
FfolderGmedium shadeMrunning manOnd telephone receiverXlow paraphrase bracket
Wnormal factor semidirect productZHone eighth blockMquarter blockQpen squared dotPuter join
KparenthesisA extensionJlower hookKupper hookWraised omission bracketXs-shaped bag delimiter
Vemidirect productQven eighths blockSideways u bracketQngle quotation markUpeaker
A with one sound waveOthree sound wavesZCech bubbleMquare bracketA extensionJlower corner
Mupper cornerMwith double strokeNquillFstrokeGtick in bottom cornerNtop cornerSunderbar
ZCubstitution bracketUtackDhird white right pointing indexZFought bubbleMree eighths block
Nquarters blockTortoise shell bracketVransposition bracketTiangleA above left triangle
Wular one quarter blockZDvertical bar with quillNox lineRwhite corner bracketNurly bracket
Nlenticular bracketSparenthesisLsquare bracketOtortoise shell bracketZCiggly fence
N-facing armenian eternity signWfistEsvasti signA with dotsZDhanded interlaced pentagram
ZCpointing angle bracketNcurved angle bracketUdouble angle quotation markZCmagnifying glass
ZAshaded white rightwards arrowZDide arc clockwise arrowYto-left embeddingJisolateHmarkEoverride
Rhand interior productVwards arrowA above almost equal toPreverse almost equal toPtilde operator
Wshort leftwards arrowVtilde operatorTnd upper and lower one eighth blockZLfrom bar
A to black diamondZAover leftwards arrowUthrough greater-thanMsupersetIxIo barClack diamond
Qwith corner downwardsQdotted stemJuble vertical strokeWequilateral arrowheadVhook
Elarge triangle arrowheadXoopEmedium triangle arrowheadZAnotched tailMplus below
Ksmall equilateral arrowheadVtriangle arrowheadXtrokeGtailA with double vertical stroke
Wvertical strokeYip downwardsJupwardsLvertical strokeV-tailKback-tilted shadowed white arrow
ZGlack arrowFcircled white arrowYottom shaded white arrowZAcompressed arrowQdashed arrow
Louble arrowA from barIwith strokeGvertical strokeV-tailKdash arrowRfinger-post arrow
Qront-tilted shadowed white arrowZIhandCrpoon over leftwards harpoon
Wwith barb down above leftwards harpoon with barb downZNbelow long dashPfrom barIto barHwards
Jup above leftwards harpoon with barb upZEong dashJrightwards harpoon with barb downZOfrom bar
Ito barHwardsYeavy arrowFcompressed arrowWleft-shaded white arrowXopen-headed arrowRpaired arrows
Nquadruple arrowPright-shaded white arrowXocketGsans-serif arrowPquared arrowKiggle arrow
Otop shaded white arrowVriangle arrowheadK-headed arrowA over leftwards triangle-headed arrow
ZLto barGwith bold shaftKdouble horizontal strokeRvertical strokeWheavy shaftLlong tip downwards
JupwardsQmedium shaftMnarrow shaftMvery heavy shaftZCdashed arrowMpaired arrowsZBple arrow
Fdash arrowQwo headed arrowN-headed arrow from barIwith double vertical strokeWtail
A with double vertical strokeWvertical strokeYriangle arrowheadsTvertical strokeZBtriple dash arrow
ZDwave arrowJhite arrowA from wallJwithin triangle arrowheadZVngA aboveFbuoyEequal toIin equal to
LoperatorIpointGed planetJing bellKsing diagonal crossing falling diagonalQsouth east arrowZPleBiBm
BoCoasted sweet potatoSbot faceIckAetEll of paperJed-up newspaperOr coasterHskate
Iing on the floor laughingZCman as signHcenturial signOdenarius signMimidia sextula sign
Tupondius signOnumeral eightElevenGfiftyA early formKthousandMveA hundredHthousandMourEnineEone
A hundredA thousandQthousandA c dQreversed one hundredUsevenEixA late formNtenA thousandLhreeEwelve
EoLquinarius signOsemuncia signLstertius signNxtans signIula signLiliqua signMuncia signOosterFse
AtteFtated capital qJfloral heart bulletTheavy black heart bulletYlight four pointed black cusp
ZEwhite four pointed cuspZEund pushpinHtargetHed symbol for caiDfuCluCshouCuangxiIxiTwboatGs
Buble signIgby footballMle-delayedKmi digit eightFfiveDourEnineEoneDsevenEixDthreeEwo
Jfraction one halfEquarterHthirdJtwo thirdsTnumber eight hundredIyGfiftyDve hundredLortyDur hundred
Mnine hundredItyGone hundredLseven hundredItyGix hundredItyFtenChirtyEree hundredMwentyEo hundred
Vnic arlaug symbolNbelgthor symbolPcross punctuationRletter ac aDescDlgiz eolhxKnsuz a
Hberkanan beorc bjarkan bYcAalcDealcDnCweorthHdAagaz daeg dLotted-lBnBpIeAarChwaz eh eJngCth
Dfehu feoh fe fNranks casket acBescEehCisCosQgAarCebo gyfu gJrDhaegl hFglaz hIicelandic-yrLngAwaz
ForCsaz is iss iMwaz eohIjeran jHkAaun kCaFlaukaz lagu logr lRong-branch-ar aeFhagall hImadr m
Goss oFyrOmannaz man mMnaudiz nyd naud nRoAeBnBoBpen-pFs oDthalan ethel oPpertho peorth pPq
Braido rad reid rQshAort-twig-ar aEbjarkan bJhagall hImadr mGnaud nGoss oFsol sFtyr tFyr
Migel long-branch-sol sWowilo sHtanEthurisaz thurs thornTiwaz tir tyr tPuruz ur uJvBwAunjo wynn wMx
ByArCzImultiple punctuationUsingle punctuationStvimadur symbolSnerCing shirt with sashVpee sign
Issian astrological symbol binovileInovileGquintileIsentagonItredecileJvigintileZMs in triangle
Mafety pinDvestJgittariusJilboatGke bottle and cupRlt shakerHireEuting face
Lmaritan abbreviation markRletter alafEbaaCitDdalatFfiCgamanFinBtByCkaafElabatFmimDnunDqufDrish
EshanDingaatHtaafDitCsaadiyHyutDzenKmark dageshGepenthetic yutOinA-alafHnequdaaHocclusion
Nodifier letter epenthetic yutOiBshort aXpunctuation afsaaqFngedDnaauFrkaanuGtmaauGbau
Dmelodic qitsaNnequdaaHqitsaFshiyyaalaaJof mashfaatMturuEzaefDiqaaRvowel sign aAaCeBiBlong aAaCeBi
BuGoAverlong aAaLshort aGukunFuUndwichFs-serif heavy double comma quotation mark ornament
ZEturned comma quotation mark ornamentZSlow double comma quotation mark ornament
ZVinterrobang ornamentZEriCtelliteA antennaOurnEurashtra consonant sign haaruUdandaEigit eightFfive
DourEnineEoneDsevenEixDthreeEwoDzeroJouble dandaMletter aAaBiBuCbaBhaDcaBhaDdaBdaBhaDhaDeAeCgaBha
DhaCiAiCjaBhaDkaBhaDlaBlaDmaCnaBgaCnaCyaDoAoCpaBhaDraCsaBhaCsaDtaBhaCtaBhaEuAuCvaBocalic lAlCrArKya
Jsign anusvaraIcandrabinduLviramaEsargaMvowel sign aaBiBuCeAeCiAiCoAoCuAuCvocalic lAlCrArZDopod
GxophoneIcalesDrfDhoolA satchelMiBooterErpionCusGreenCwdriverIipt capital bBeBfBhBiBlBmBpBr
Jligature et ornamentUsmall eBgBlBoLollDupleGealBtCcond place medalPtion signIorEdna
De-no-evil monkeyPdlingGgmentAed digit eightFfiveDourEnineEoneDsevenEixDthreeEwoDzeroSlfieEmicolon
Fdirect product with bottom closedZIsextileJparated symbolOrious face with symbols covering mouth
ZMvice markKsame dotHquiquadrateMt minusFtransmit stateQwing needleLxtileGgcChadowed white circle
Glatin crossLstarQllow pan of foodQmrockFrada abbreviation signRcontinuation signRdandaEigit eight
FfiveDourEnineEoneDsevenEixDthreeEwoDzeroJouble dandaMekamDxtra short vowel markWheadstroke
Kletter aAaBiBuCbaBhaDcaBhaDdaBdaBhaDhaDeBgaBhaDhaCiAiCjaBhaDkaBhaDlaBlaDmaCnaBgaCnaCyaDoBpaBhaDra
CsaBhaCsaDtaBhaCtaBhaEuAuCvaBocalic lAlCrArKyaJomCsandhi markKection mark-1B2MparatorIign anusvara
HvagrahaIcandrabinduLinverted candrabinduUjihvamuliyaLnuktaFsiddhamHupadhmaniyaLviramaEsarga
Lutra markKvowel modifier markNsign aaBiBuCeBiAiCoBprishthamatra ePuAuCvocalic lAlCrArZAkCved ice
Gian letter adoCgeChBirCreBrayEshCweDbibDchurchGdeadEearBtCggCrrDfeeDgagDha-haEungEianCceCfCjudge
FkickElollEmeasureGimeEnunDoakCilCnBozeDrButDpeepEroarEsoBureEtheyCighEotDupCvowDwoeBolEyeaBwDzoo
QeepDieldDft inCoutGnto shrineKpCocked face with exploding headZEoting starKpping bagsEtrolley
Nrt backslanted south arrowWent arrow pointing downwards then north eastZUdown tackA with overbar
Wleft tackJrightwards arrow above leftwards arrowZNslanted north arrowTup tack
A above short down tackVwith underbarWcakeEhand format continuing overlapSdown stepJletter overlap
Oup stepTsDuldered open boxQwerErimpDugDuffle productNyCiAddham dandaEouble dandaMend of text mark
Qletter aAaBiBlternate uKuCbaBhaDcaBhaDdaBdaBhaDhaDeBgaBhaDhaCiAiCjaBhaDkaBhaDlaCmaCnaBgaCnaCyaDo
BpaBhaDraCsaBhaCsaDtaBhaBree-circle alternate iXtaBhaDwo-circle alternate iAiXuAuCvaBocalic lAlCrAr
KyaJrepetition mark-1B2B3Rsection mark double ringA with raysVwith circles and four enclosuresPrays
Etwo enclosuresZBdouble crescentsQquadruple crescentsTrays and dotted crescentsJdouble crescents
Qtriple crescentsZHseptuple crescentsStrident and dotted crescentsQu-shaped ornaments
ZCple crescentsZHparator barDdotMign anusvaraIcandrabinduLnuktaFsiddhamHviramaEsargaMvowel sign aa
BiBlternate uAuLuCeBiAiCoBuAuCvocalic rArZBeways black down pointing indexTleft pointing index
Tright pointing indexUup pointing indexXwhite down pointing indexTleft pointing index
Tright pointing indexUup pointing indexZFgn of the hornsNwriting air blow small rotationsQing out
Lsuck small rotationsQing inObreath exhaleGinhaleLush betweenHmultipleIsingleMcheeks neutralHpuffed
GsuckedMolonDmmaFdreamy eyebrows down neutralMneutral downEupKup neutralZAynamic arrowhead large
FsmallPevery other timeQfastEgradualHrelaxedHsimultaneousA alternatingXlowEtenseNearsDxcitement
Jye blink multipleIsingleMwinkFbrows straight downEneutralHupRgaze-floorplane curvedGstraight
A alternatingLdoubleZBwallplane circlingHurvedGstraightA alternatingLdoubleZFlashes downEfluttering
KupJs closedGhalf closedGopenJopenEsqueezedIwide openFning movement
Wface direction position nose forward tiltingPup or downA tiltingZVill modifier-2B3B4B5B6Nnger
Flick large multipleIsingleMsequentialJmall multipleIsingleQoorplane shoulder hip move
ZCorehead contactHneutralHwrinkledQull stopJgrasp betweenHmultipleIsingleMhairCnd-angleA index
A middle littleGringLring littleA outPthumbA inCoutPlittle indexA thumb index thumbA outZCup
Jmiddle ring littleA inCoutWring down middle thumb index crossZElittleRcircleA indexA bentEhinge
FmiddleA cross littleHedHlittleGringEthumbMring littleRlittle indexFupJmiddle ring littleA bentQup
Jring littleRlawA four fingers conjoinedWindex thumb curve thumb inside
ZFmiddle ring little conjoinedA sideZIno thumbIthumb forwardHsideOupA five fingers spreadA open
YindexA ring littleLthumbA openQmiddle ring littleSno thumbIopenA no thumbIthumb forwardHside
Pthumb forwardHsideMrlicueA index ring little onUmiddle ring little onVopenNfist
A four fingers conjoined bentZCheelEindexA bentA over middleQcuppedGhingedA lowDmiddle up
A thumb sideZCmiddleA bentA thumb straightTconjoinedA cuppedA thumb forwardUhingedA thumb side
Rindex bentKmiddle bentLthumb forwardHsideA bentEconjoinedZEross littleHedA thumb sideShinged
A spread thumb sideYlittleGraised knucklesOingA bentEconjoinedOstraight thumb bentTthumbA angled
A outKbentEcircledGonjoined hingedPuppedGhingedFookedMup spread thumb forwardZFraised knuckle
Ning littleLthumb angled in middle upMout middle upUcircleAd middle upQupped middle upOrlicue
Fve thumb insideGunderRforward index bentEstraightWhookAed middle hingedGupQsideA both bent
Jindex bentEhingeLthumb bentEconjoinedJdiagonalZAup middle hingedA thumb conjoinedJside
ZIlittle bentEdownA others circledOripple curvedGstraightUindexA thumbLraised knuckleOthumb
Eouches thumbNupJmiddle bent over indexPdownElittleGraised knuckleNing littleLthumb angled index up
Iout index crossedHupTcircled index hingedGupPupped index upPhooked index upPlittleMupA thumb side
Uring downEindexFlittleGmiddleA conjoinedJraised knucklesWraised knuckleOthumbFupHthumb
A between index middleA straightVmiddle ringLring littleTforwardHheelEover four raised knuckles
Utwo fingersQside bentEconjoinedJdiagonalNunder four fingersMindex bentKlittle upJthree fingers
Mwo fingersZClatA between palm facingsUfive fingers spreadA bentEfour bentJhingedA no thumb
Ithumb sideRthumb forwardZHour fingersA bentEconjoinedA splitPhingedTheelA five fingers spread
A bentEfour bentZEthumb sidePsplit centreA thumb sideA bentWindex thumb sideQlittleMthumb bent
EforwardHsidePhingeA five fingers spread openXour fingers conjoinedWindexA hingedGmiddle little
GringA conjoinedVring littleLthumbA largeFopenEsideDmallRlittleA indexA thumbLthumbMmiddle
A ring littleSno thumbIopenA no thumbIthumb forwardHsidePringA down index thumb hook middleZIsmall
Fthumb between middle ringTsideA touching indexZFookA curlicueIindex ring little inCoutDunder
Xmiddle ring little conjoinedA inCoutZAthumbMring thumbPovalA five fingers spreadTindexFlittle up
Jno thumbIring littleLthumb forwardHsideTeadA movement circleH-floorplane curveFstraight
Twallplane curveFstraightItiltXrimIlimb combinationLlength-1B2B3B4B5B6B7Lp lower over upper
Qupper over lowerRs pressed togetherUocation depthFhead neckHightGlimbs digitsMtorsoFwidth
G-floorplane spaceQwallplane spaceYmouth closed contactHforwardHneutralNornersHfrownA openEwrinkled
OkissA forwardHwrinkledNopen circleGforwardHovalA wrinkledIyawnJrectangleA wrinkledIyawnOwrinkled
NsmileA openEwrinkledOtenseA forwardHsuckedMwrinkles doubleGsingleTvement-diagonal away largeAst
HmediumGsmallKbetween away largeAstHmediumGsmallKtowards largeAstHmediumGsmallVtowards largeAst
HmediumGsmallWfloorplane arm circle hitting wall large doubleGsingleMmedium doubleGsingle
Nsmall doubleGsingleZLbendDox largeFmediumGsmallJcheckEorner largeFmediumGsmallLrossEurve combined
Ihitting ceiling largeFsmallNfloor largeFsmallTlargeAstHmediumGsmallLdouble alternatingA wrist flex
WstraightIwrist flexRfinger circles hitting wall doubleGsingleZBontact
Ohump hitting ceiling large doubleGtripleMsmall doubleGtripleUfloor large doubleMsmall double
Mtriple large tripleMsmall tripleZIsmallKjawDloop hitting ceiling large doubleGsingleMsmall double
GsingleUfloor large doubleGsingleMsmall doubleGsingleZBsmallKpeaks largeFmediumGsmall
Lshaking parallelPingle straight largeAstHmediumGsmallOwrist flexRtriple alternating movement
Iwrist flexWstraight movementRwrist flexRwave hitting ceiling largeFsmallNfloor largeFsmallTlarge
FsmallEnakeJrist circle hitting wall doubleGsingleZHzigzag largeFmediumGsmallXhinge down sequential
Pside to side scissorsVup down alternating largeFsmallRlargeFsmallKsequential
Twallplane arm circle medium doubleGsingleNsmall doubleGsingleXbend largeFmediumGsmallJox large
FmediumGsmallJcheck largeFmediumGsmallKorner largeFmediumGrotationIsmallLross
Eurve half-circle largeAstHmediumGsmallQitting chestFfront wallSquarter largeAstHmediumGsmall
Nthen straightLree-quarter circle mediumGsmallZCd cross mediumGsmallSdouble alternatingA wrist flex
WstraightIwrist flexRfinger circles doubleGsingleNontactOhump hitting chestFfront wallSlargeFmedium
GsmallKjawDloop hitting chestFfront wallSlargeFmediumGsmallA doubleRpeaks largeFmediumGsmall
LshakingGingle straight largeAstHmediumGsmallOwrist flexRtriple alternatingA wrist flex
Wstraight movementRwrist flexRwave curve double largeFmediumGsmallMtriple largeFmediumGsmall
Sdiagonal path largeFmediumGsmallThitting chestFfront wallWrist circle front doubleGsingle
ZAzigzag largeFmediumGsmallZGneckDose contactHneutralHwigglesGrinklesNparenthesis
Lrotation modifier-10B1B2B3B4B5B6C2B3B4B5B6B7B8B9L-floorplane alternatingA hitting ceilingHfloor
ZAdoubleA hitting ceilingHfloorUsingleA hitting ceilingHfloorZGwallplane alternate
Bing hitting chestFfront wallZFdoubleA hitting chestFfront wallZAsingleA hitting chestFfront wall
ZSub betweenHmultipleIsingleKsemicolonIhoulder hip positionsJspineJtilting from waist
ZBqueeze flick alternatingRlarge multipleIsingleMsequentialJmall multipleIsingleTtrike between
HmultipleIsingleMurface betweenHsymbolsPteethA bite lipsJmovementIon lipsA movementNtongue
A movementWnse cheeks highElowDmiddleSongue centre inside mouthMsticking outTinside mouth relaxed
Ulicking lipsMmoves against cheekTsticking out farQtip between lipsMtouching inside mouth
ZFrso-floorplane twistingTwallplane curved bendLstraight stretchZFuch betweenHmultipleIsingle
Lravel-floorplane rotation-floorplane alternatingLdoubleGsingleRwallplane alternatingLdoubleGsingle
ZAshakingSwallplane arm spiral doubleGsingleGtripleRrotation-floorplane alternatingLdoubleGsingle
Rwallplane alternatingLdoubleGsingleZAshakingYupper body tilting from hip joints
ZJwallplane shoulder hip moveZMlhouette of japanRmilar above greater-than above equals sign
ZFless-than above equals signZIminus similarNor greater-thanMless-thanSne wave
Ggle character introducerUgraphic character introducerZDhigh-reversed-9 quotation mark
ZFleft-pointing angle quotation markZIow-9 quotation markUright-pointing angle quotation mark
ZKshift threeEwoK-shift-2B3Lhala archaic digit eightFfiveDourEnineEoneDsevenEixDthreeEwo
Jnumber eightyGfiftyEortyFninetyGone hundredHthousandMseventyGixtyFtenChirtyFwentyVletter aayanna
GeeyannaGyannaGiyannaGlpapraana bayannaHcayannaHdayannaGdayannaIgayannaHjayannaHkayannaHpayanna
HtayannaGtayannaSmba bayannaLuyannaGyannaGdantaja layannaHnayannaHsayannaPeeyannaGyannaGfayanna
HhayannaHiiyannaGluuyannaGyannaHruuyannaGyannaHyannaGkantaja naasikyayaSmahaapraana bayannaHcayanna
HdayannaGdayannaIgayannaHjayannaHkayannaHpayannaHtayannaGtayannaSyannaGuurdhaja layannaHnayanna
HsayannaRooyannaGyannaGrayannaHsanyaka dayannaGdayannaIgayannaHjayannaPtaaluja naasikyaya
Ksanyooga naaksikyayaSyannaPuuyannaGyannaGvayannaHyayannaNith digit eightFfiveDourEnineEoneDseven
EixDthreeEwoDzeroPpunctuation kunddaliyaWsign al-lakunaInusvarayaKcandrabinduLvisargaya
Ovowel sign aela-pillaKdiga aeda-pillaKgaetta-pillaKyanukittaLis-pillaIkombuvaHpaa-pilla
Ogaetta-pillaKyanukittaLketti aeda-pillaKis-pillaIpaa-pillaOombu dekaFvaA haa aela-pilla
Kdiga aela-pillaPgayanukittaZPx petalled black and white floretteZHointed black starKpinwheel star
Nstar with middle dotZE-per-em spaceNteen pointed asteriskXkateboardIi and ski bootNerDull
A and crossbonesRnkElanted equal to or greater-thanA with dot insideZDless-thanA with dot inside
ZMnorth arrow with hooked headJrizontal tailZMvonic asteriskPedBeping accommodationNfaceEsymbol
Ky faceIuth or spyLice of pizzaLghtly frowning faceNsmiling faceTopeBing large andDorNt machineIh
Emall airplaneHmpersandIsteriskIblue diamondMcolonDmmaBercial atLntains as memberJwith overbar
Hvertical bar at end of horizontal strokeZZEdollar signLelement ofA with overbar
Hvertical bar at end of horizontal strokeZZFm dashGquals signKxclamation markQfull stop
Jgreater-than signRhyphen-minusMideographic commaRleft curly bracketNparenthesis
Ltortoise shell bracketZAss-than signOnumber signLorange diamondOpercent signLlus sign
Jquestion markNreverse solidusOight curly bracketNparenthesisLtortoise shell bracket
ZComan numeral eightElevenGfiftyDveA hundredLourEnineEoneA hundredHthousandMsevenEixDtenChreeEwelve
EoRsemicolonJtildeEwo dots over one dot punctuationZIvee with underbarSer thanA or equal to
Vsh productLileBing cat face with heart-shaped eyesRopen mouthYface with haloDeart-shaped eyesQorns
Fopen mouthA and cold sweatKsmiling eyesMtightly-closed eyesZJsmiling eyesA and hand covering mouth
Tthree heartsZDunglassesKtearTrking faceLoking symbolNnailCkeDeezing faceLow capped mountain
QboarderHflakeFmanA without snowToAccer ballIksDft hyphenGice creamJshell floppy diskSball
Eware-function symbolWgdian combining curve aboveFbelowLdot aboveFbelowJhook aboveFbelow
Klong hook belowPresh belowKstroke belowMtwo dots aboveFbelowYindependent shinQletter alephEyin
EbethEfethEgimelFheAthEkaphElamedhFeshEmemDnunDpeCresh-ayinJsadheDmekhFhinEtawDwawDyodhEzayin
Mnumber oneA hundredLtenCwentyNpunctuation circle with dotPhalf circle with dot
Utwo circles with dotsRvertical barsA with dotsZUhBlid quilt square ornamentA in black squareZNus
A with overbarSm signGon with rightwards arrow aboveZFra sompeng digit eightFfiveDourEnineEone
DsevenEixDthreeEwoDzeroKletter ahCbahDcahDdahDeehChCgahDhahDihCjahDkahDlahDmaeBhDnahCgahDyahEohCpah
DrahDsahDtahDuhCvahDyahVsBund recording copyrightWth east arrowA and south west arrow
Ucrossing north east arrowZAto cornerJwith hookPblack arrowLdouble arrowMpointing budDleaf
Evine leafSsans-serif arrowQtriangle-headed arrowA to barZDwhite arrowQwest arrow
A and north west arrowUwith hookPblack arrowLdouble arrowMpointing budDleafEvine leaf
Ssans-serif arrowQtriangle-headed arrowA to barZDwhite arrowUyombo cluster-initial letter laCraCsa
BhaZBfinal consonant sign -aCbBdBgBkBlBmBnAgCrBsAhXgemination markPhead mark with moon and sun
A and flameFtriple flameZTletter -aCaBbaBhaDcaBhaDdaBdaBhaDhaCzaDgaBhaDhaCjaBhaDkaBhaCssaElaCmaCna
BgaCnaCyaDpaBhaDraCsaBhaCsaDtaBhaCsaBhaDtaBhaEvaCyaCzaBhaKmark double shadLplutaFshadEtsheg
Ksign anusvaraIjihvamuliyaLupadhmaniyaLvisargaLubjoinerJterminal mark-1B2Pvowel length markLsign ai
BuCeBiBoAeCuAeCvocalic lBrZCpAaAceCghettiGrkleAsCing heartNeak-no-evil monkeyPer
A with cancellation strokeTone sound waveOthree sound wavesZAing head in silhouetteYech balloon
KdboatGsmilo signLherical angleA opening leftEupYiderA webHral calendar padMnote padIshell
Klashing sweat symbolUongeDol of threadLnCrts medalJuting whaleNquare a over mHaruDmBnpeaEpaato
FruhuaFuCbaareruFrCeetaEiruDorutoFqBussyeruIc over kgIalBpCcBdBmA cubedFsquaredJoArporationKupDda
AasuEbBesiDjBlBmA cubedFsquaredJoruEeekaaEra name heiseiGmeiziFreiwaFsyouwaGtaisyouOgCsukuudoHvCfm
BootCur cornersMgalBnmaDronEbBhzCigaCniiDrudaaGpaCuramuAtonIyChaAituEekutaaruHrutuFgBiragana hoka
MonBonBruEpAaCuaraddoGiitoEranEzCimage ofA or equal toInot equal toXnAinguEtiDuCk ohmEaAiriDratto
EoriiGbBcalDeesuEgBhzCiroAguramuGmeetoruHwattoIkBlBmA capitalGubedFsquaredJoopoDrunaFpaCtBuroone
EuzeiroIvBwByuriiGleft open box operatorVmBnBogBzengeGxCm cubedFohmCver sA squaredOsquaredIaAhha
DikuroEruDnsyonFrukuFbA smallHeetoruFgaAtonGgBhzCikuronFlBriAbaaruIlBmA cubedFsquaredJolCpaCsBu aBf
BgBlBmBsBvBwDvA megaGwA megaHnaAnoDfBmBottoEsBvBwConsuDomuDriginal ofA or equal toInot equal toZBv
CpaA ampsFasentoFtuEcBeeziDnihiDsuDsoDfBhBiasutoruHkoBuruFmBointoEndoDsition indicatorRpmCrBsBvBw
CradA over sA squaredRemuCntogenHight open box operatorVraCttoruGootDupiiDuburuHsaikuruFntiimuHenti
BoEiringuGrBvCtargetFhzConDuonDv over mIwattoEbBith bottom half blackRcontoured outline
Rdiagonal crosshatch fillYhorizontal fillPleft half blackOower left diagonal half black
Yright diagonal half blackZGorthogonal crosshatch fillZBright half blackQtop half black
Oupper left diagonal half blackTto lower right fillYright diagonal half blackTto lower left fill
ZFvertical fillSyaadoCruEuanFd asteriskIcjk unified ideograph-4e00B9C2dC8cCa4E518dD21dC4dC72D3ccCf3
D408C39D5b6D8f0D91aC29Db57Dde6Df8cE624bC53C95D307C55D599Cb0D620D708B9De80Df14E7121D51fC33D981Da7a
Dd42E89e3Dca9Dd70E904aD14dZAlBoolEdot operatorMeight kHfalling diagonal slashVive point one
Nour dot punctuationPkFreeEhcBdrCi-resFvCidCkatakana deCkokoEsaKeyDlatin capital letter aBbBcBdBeBf
BgBhBiBjBkBlBmBnBoBpBqBrBsBtBuBvBwBxByBzQsmall letter dTogical andDorIsslessIminusEvCnewCgCok
Bne hundred twenty pUplusDpvDrising diagonal slashVsaltireGdBecond screenLven point oneOhvCixty p
Gmall circleLosCquareFsCthree dGimesEwenty-two point twoSo kFuhdCp with exclamation markYvodCsCwc
Gt black rightwards arrowZAidEs2B3BaCtAadiumEff of aesculapiusLhermesMmped envelopeNnding person
Mr and crescentMequalsGof davidHperatorIwith left half blackPright half blackWt of guarded area
MheadingHprotected areaOselected areaMtringGtextKtionDue of libertyPeam locomotiveLing bowl
Knographic full stopTthoscopeJick figureA leaning leftErightNwith arms raisedLdressVock chart
IpwatchHraight rulerGnessIwberryHess outlined white starXictly equivalent toSng terminatorPs
Budio microphoneOffed flatbreadOpaDxCubAscript eightEquals signLfiveDourEleft parenthesisQminus
FnineEoneDplus signJright parenthesisRsevenEixDthreeEwoDzeroKet above rightwards arrowQsubset
EpersetOofA above almost equal toPequals signLnot equal toMtilde operatorUor equal to
A with dot aboveZBwith not equal toUwith dotDmultiplication sign belowZAplus sign belowXtitute
IcceedsA above almost equal toPequals signLnot almost equal toPequal toMsingle-line equals sign
Lnot equal toZFbut not equivalent toVor equal toFivalent toQunder relationVmmation bottomGtop
Dwith integralVnA behind cloudMwith faceKdanese avagrahaIconsonant sign pamingkalHnyakraEiku
Fsangan maCwaZBdigit eightFfiveDourEnineEoneDsevenEixDthreeEwoDzeroKletter aAeCbaBhaDcaCdaCeAuCfa
Binal kBmHgaChaCiBjaCkaBhaDlaBeuDmaCnaBgaCyaDoBpaCqaCraBeuDsaByaDtaCuBvaCwaCxaCyaCza
Jpunctuation bindu ba satangaKcakraFda satangaKka satangaKleu satangaLpanglongHurnamaHsurya
Xsign pamaaehFnglayarFwisadGyecekIviramaLvowel sign pamepetFnaelaengHeuleungHghuluFolongFyuku
ZAflowerGriseA over mountainsTset over buildingsTperheroEscript eightEquals signLfiveDour
Elatin small letter iBnTeft parenthesisQminusFnineEoneDplus signJright parenthesisRsevenEixDthree
EwoDzeroKet above leftwards arrowPsubsetEpersetObeside and joined by dash with subsetZFsubsetNof
A above almost equal toPequals signLnot equal toMtilde operatorUor equal toA with dot above
ZBwith not equal toUpreceding solidusRwith dotDmultiplication sign belowZAplus sign belowYvillain
Krface integralMerEshiCpension railwayRwanBsh ampersand ornamentWimmerFung dash
Jyloti nagri letter aBbhoCoCchoCoCddhoCoChoCoCeBghoCoChoCiBjhoCoCkhoCoCloCmoCnoCoBphoCoCroBroDso
CthoCoBthoCoDuIpoetry mark-1B2B3B4Nsign alternate hasantaQnusvaraIdvisvaraIhasantaMvowel sign aBeBi
BooCuXmbol for acknowledgeLbackspaceIellEcancelErriage returnPdata link escapePeleteA form two
Nvice control fourEoneDthreeEwoSend of mediumGtextDransmissionA blockXquiryGscapeGfile separator
Norm feedJgroup separatorPhorizontal tabulationVline feedJmarks chapterNnegative acknowledgeSwline
GullErecord separatorQsamaritan sourcePhift inCoutIpaceEtart of headingHtextMubstituteA form two
Synchronous idleQtype a electronicsSunit separatorOvertical tabulationZCmetryGnAagogue
Gchronous idleOriac abbreviation markRbarrekhHcolon skewed leftErightQntraction
Ldotted zlama angularHhorizontalXend of paragraphPsasa aboveFbelowLfeminine dotMharklean asteriscus
KmetobelusJobelusObasa aboveFbelowG-esasa dottedRorizontal colonQletter alaphFbethEdalath
Fotless dalath rishTeBfinal semkathNgamalA garshuniOheAthEkaphElamadhGmalayalam bhaDjaCllaBlaEnga
CnaBnaDyaDraCssaDttaMimDnunDpeArsian bhethFdhalathHghamalOqaphEreversed peKishEsadheEemkathGhin
Dogdian feCkhaphFzhainMuperscript alaphRtawCethA garshuniNwawDyudhA heHzainLmusic
Foblique line aboveFbelowSpthaha aboveFbelowFdottedNqushshayaJrbasa aboveFbelowKukkakhaHwaha
Fsublinear colonA skewed leftErightSfull stopRpralinear colonA skewed leftRfull stop
Vthree dots aboveFbelowPwo vertical dots aboveFbelowXzqapha aboveFbelowFdottedQngeHt-rexDshirtGab
Ale tennis paddle and ballZBcoCg ampersandIpostropheJsteriskIcircumflex accentQolonDmmaBercial at
Ndigit eightFfiveDourEnineEoneDsevenEixDthreeEwoDzeroJollar signLequals signKxclamation mark
Qfull stopJgrave accentKeater-than signRhyphen-minusMlatin capital letter aBbBcBdBeBfBgBhBiBjBkBlBm
BnBoBpBqBrBsBtBuBvBwBxByBzQsmall letter aBbBcBdBeBfBgBhBiBjBkBlBmBnBoBpBqBrBsBtBuBvBwBxByBz
Teft curly bracketNparenthesisLsquare bracketRss-than signNow lineInumber signLpercent sign
Llus signJquestion markLotation markOreverse solidusOight curly bracketNparenthesisLsquare bracket
UsemicolonIolidusGpaceFtildeFvertical lineOalog letter aArchaic raKbaCdaCgaChaCiBkaClaCmaCnaBgaDpa
CraCsaCtaCuBwaCyaJsign pamudpodIviramaLvowel sign iBuRbanwa letter aBbaCdaCgaCiBkaClaCmaCnaBgaDpa
CsaCtaCuBwaCyaJvowel sign iBuTi le letter aAiBueDeAeBhCfaChaCiBkaBhaDlaCmaCnaBgaDoAoCpaBhaDqaCsaCta
BhaCone-2B3B4B5B6FsaBhaEuAeCvaCxaCyaMtham combining cryptogrammic dotZAnsonant sign baCfinal nga
Jhigh ratha or low paUla tang laiKow paGmaBedial laCraJsaRhora digit eightFfiveDourEnineEoneDseven
EixDthreeEwoDzeroPletter aBbaCdaCeeCgreat saIhigh caBhaDfaChaCkaBhaCxaDpaBhaDrathaFsaBhaCsaDtaBha
DyaHiAiClaAeClaCow caBhaDfaChaCkaBhaCxaDpaBhaDrathaFsaCtaBhaDyaFueDmaCnaBgaCyaDooCraAnaCtaDueDuAu
CwaJsign caangFdokmaiGhangDoyDkaanAkuuGeowDhuen tone-3B4B5H-lue karanPmai kangA laiIsamDyamok
Jra haamGeversed rotated ranaVsakotDtkaanAkuuIwanFtone-1B2GwiangAwaakOtham digit eightFfiveDour
EnineEoneDsevenEixDthreeEwoDzeroPvowel sign aAaBeBiCeBiAiCmai satHoAa aboveFbelowHoByCtall aa
Gham aiHuAeBuAeTviet letter high boCchoCoCdoCfoCgoChoCkhhoCoCoCloCmoCngoCoByoDoBphoCoCroCsoCthoCo
CvoCyoHlow boCchoCoCdoCfoCgoChoCkhhoCoCoCloCmoCngoCoByoDoBphoCoCroCsoCthoCoCvoCyoNmai kangDhit
Isymbol ho hoiGkoi koiFnDnuengFsamKtone mai ekCnuengFsongEthoMvowel aaBmBnBueCyCeBiAaCoBuAaBeAa
Qkeout boxIri abbreviation signRdigit eightFfiveDourEnineEoneDsevenEixDthreeEwoDzeroKletter aAaBi
Brchaic khaKuCbaBhaDcaBhaDdaBdaBhaDhaDeBgaBhaDhaCiAiCjaBhaDkaBhaDlaCmaCnaBgaCnaCyaDoBpaBhaDraBraDsa
BhaDtaBhaCtaBhaEuAuCvaCyaJsign anusvaraInuktaFviramaEsargaMvowel sign aaBiBuCeBiAiCoBuAu
Rlly mark fiveEoneMmaleDil and odd signLs above signMu length markOcredit signKurrent signMday sign
Hebit signJigit eightFfiveDourEnineEoneDsevenEixDthreeEwoDzeroJry cultivation sign
Ufraction downscaling factor kiizhYone eighthBiethJfifthEortiethIhalf-1B2Gone-hundred-and-sixtieth
YquarterHsixteenth-1B2Hy-fourthMtenthEhirty-secondLree-hundred-and-twentiethZBwentieth
Nthree eightiethsKquartersIsixteenthsGy-fourthsNtwentiethsZAin possession signSland signIetter aAa
BiBuCcaCeAeChaCiAiCjaCkaClaBlaBlaEmaCnaBgaCnaBnaDyaDoAoCpaCraBraDsaBhaCsaDtaBtaDuAuCvaCya
Jmonth signKnumber one hundredHthousandMsignEtenKomCpunctuation end of textXrupee sign
Ksalt pan signMign aazhaakkuInusvaraIcevituGkaacuEuruniEzhiFmukkuruniHthaliyaHuvuzhakkuLnelDpaaram
EnamDthakkuHonDuzhakkuHvakaiyaraaIraakanHeliDiramaEsargaLpent signJtarting from signStotal sign
Jraditional credit signLnumber signXvowel sign aaBiBuCeAeCiAiCoAoCuAuNwet cultivation sign
Uyear signNnabata treeKgerineFsa digit eightFfiveDourEnineEoneDsevenEixDthreeEwoDzeroKletter acBq
BwcBqBxBzCxBzCbaCcaBhaDdaBhaDecBqBxBzCfaBinal ngIgaBhaDhaBtaBtaEicBqBxBzCkaBhaDlaBong uexImaBcBqBx
BzCnaBgaChaCyaDocBqBxBzCpaBhaDraCsaBhaBort awxDuezJtaBhaCsaDucBecBqBxBzCicBqBucBqBxBzCxBzCqBxBzCvc
BqBxBzCwaCxaCyaCzaMut component-001B2B3B4B5B6B7B8B9C10B1B2B3B4B5B6B7B8B9C20B1B2B3B4B5B6B7B8B9C30B1
B2B3B4B5B6B7B8B9C40B1B2B3B4B5B6B7B8B9C50B1B2B3B4B5B6B7B8B9C60B1B2B3B4B5B6B7B8B9C70B1B2B3B4B5B6B7B8
B9C80B1B2B3B4B5B6B7B8B9C90B1B2B3B4B5B6B7B8B9D100B1B2B3B4B5B6B7B8B9C10B1B2B3B4B5B6B7B8B9C20B1B2B3B4
B5B6B7B8B9C30B1B2B3B4B5B6B7B8B9C40B1B2B3B4B5B6B7B8B9C50B1B2B3B4B5B6B7B8B9C60B1B2B3B4B5B6B7B8B9C70B1
B2B3B4B5B6B7B8B9C80B1B2B3B4B5B6B7B8B9C90B1B2B3B4B5B6B7B8B9D200B1B2B3B4B5B6B7B8B9C10B1B2B3B4B5B6B7B8
B9C20B1B2B3B4B5B6B7B8B9C30B1B2B3B4B5B6B7B8B9C40B1B2B3B4B5B6B7B8B9C50B1B2B3B4B5B6B7B8B9C60B1B2B3B4B5
B6B7B8B9C70B1B2B3B4B5B6B7B8B9C80B1B2B3B4B5B6B7B8B9C90B1B2B3B4B5B6B7B8B9D300B1B2B3B4B5B6B7B8B9C10B1
B2B3B4B5B6B7B8B9C20B1B2B3B4B5B6B7B8B9C30B1B2B3B4B5B6B7B8B9C40B1B2B3B4B5B6B7B8B9C50B1B2B3B4B5B6B7B8
B9C60B1B2B3B4B5B6B7B8B9C70B1B2B3B4B5B6B7B8B9C80B1B2B3B4B5B6B7B8B9C90B1B2B3B4B5B6B7B8B9D400B1B2B3B4
B5B6B7B8B9C10B1B2B3B4B5B6B7B8B9C20B1B2B3B4B5B6B7B8B9C30B1B2B3B4B5B6B7B8B9C40B1B2B3B4B5B6B7B8B9C50B1
B2B3B4B5B6B7B8B9C60B1B2B3B4B5B6B7B8B9C70B1B2B3B4B5B6B7B8B9C80B1B2B3B4B5B6B7B8B9C90B1B2B3B4B5B6B7B8
B9D500B1B2B3B4B5B6B7B8B9C10B1B2B3B4B5B6B7B8B9C20B1B2B3B4B5B6B7B8B9C30B1B2B3B4B5B6B7B8B9C40B1B2B3B4
B5B6B7B8B9C50B1B2B3B4B5B6B7B8B9C60B1B2B3B4B5B6B7B8B9C70B1B2B3B4B5B6B7B8B9C80B1B2B3B4B5B6B7B8B9C90B1
B2B3B4B5B6B7B8B9D600B1B2B3B4B5B6B7B8B9C10B1B2B3B4B5B6B7B8B9C20B1B2B3B4B5B6B7B8B9C30B1B2B3B4B5B6B7B8
B9C40B1B2B3B4B5B6B7B8B9C50B1B2B3B4B5B6B7B8B9C60B1B2B3B4B5B6B7B8B9C70B1B2B3B4B5B6B7B8B9C80B1B2B3B4B5
B6B7B8B9C90B1B2B3B4B5B6B7B8B9D700B1B2B3B4B5B6B7B8B9C10B1B2B3B4B5B6B7B8B9C20B1B2B3B4B5B6B7B8B9C30B1
B2B3B4B5B6B7B8B9C40B1B2B3B4B5B6B7B8B9C50B1B2B3B4B5B6B7B8B9C60B1B2B3B4B5B6B7B8Niteration mark
Tpe cartridgeJdriveIurusExiDeacup without handleSpotDr-off calendarNdrop-barbed rightwards arrow
Xspoked asteriskWddy bearIlephone location signNon top of modemPreceiverA with pagePorderIsign
KscopeFvisionHugu ai length markOdigit eightFfiveDourEnineEoneDsevenEixDthreeEwoDzero
Kfraction digit one for even powers of fourTodd powers of fourZBthree for even powers of four
Todd powers of fourZCwo for even powers of fourTodd powers of fourZBzero for odd powers of four
ZRlength markJtter aAaBiBuCbaBhaDcaBhaDdaBdaBhaDhaCzaDeAeCgaBhaDhaCiAiCjaBhaDkaBhaDlaBlaBlaEmaCna
Akaara polluMgaCnaCyaDoAoCpaBhaDraBraBraEsaBhaCsaDtaBhaCsaCtaBhaEuAuCvaBocalic lAlCrArKya
Jsign anusvaraHvagrahaIcandrabinduKombining anusvara aboveOcandrabindu aboveZCnuktaFsiddhamHtuumu
FviramaEsargaMvowel sign aaBiBuCeAeCiAiCoAoCuAuCvocalic lAlCrArZBnge signHnis racquet and ballUt
Cst tubeHtragram for accumulationLdvanceGggravationKscentGbarrierGold resolutionOranching out
NcentreFhangeFlosed mouthHnessFureGompletionFianceInstancyGtactDentionGrarietyLdarkening
IecisivenessKfectiveness or distortionZApartureIifficultiesKminishmentJmingFvergenceJoubtEuties
GeaseDmbellishmentMncountersIdeavourHlargementKternityHxhaustionKfailureGlightFollowingHstering
Iull circleHnessIgatheringA inLoing to meetMreatnessIuardednessLhardnessHolding backMincreaseGner
FjoyDkeeping smallMinshipHlabouringHw or modelLegionGmassingGeasureGiredFon the vergeLpposition
KpackingFtternGenetrationKurityGreachDleaseFsidenceFstanceHponseHitualGseveranceIinkingGtoppageFve
DrengthIunityFvastness or wastingTwaitingFtchFyouthfulnessZAhaana aabaafiliIbafiliHebefiliGebeefili
IybeyfiliJibifiliHletter ainuDlifuFbaaDchaviyaniJdaadhuEviyaniHhaaluGfaafuFgaafuEhainuFnaviyaniJhaa
ChaaEjaviyaniIkaafuEhaaElaamuEhaviyaniJmeemuFnaaCoonuFpaviyaniIqaafuFraaDsaadhuFeenuEhaviyaniHeenu
GtaviyaniHhaaAluFoBtaaEvaavuFwaavuFyaaDzaaBviyaniHoJoaboafiliIbofiliGoboofiliJsukunFubufili
Li character angkhankhuKbo baimaiJcho chanAgDingDoeIdo chadaFdekGfo faAnEngmanHho hipDnokhuk
Jkho khaiConCuatDwaiFrakhangImutFo kaiGlakkhangyaoKo chulaFlingGuCmai chattawaIekChan-akatIthoCri
EtaikhuGyamokHo maFngo nguGikhahitHo nenCuFo angFpaiyannoiIhinthuFo phanCungFsamphaoKo plaGro ruaFu
Csara aAaBeBi maimalaiEuanJmCeBiAiCoBuAeAeCuGo rusiEsalaDoBuaGthanthakhatJo nangmonthoKphuthao
HthahanDnCongDungIo patakFtaoGwo waenHyamakkanHo yakCingQurrency symbol bahtUdigit eightFfiveDour
EnineEoneDsevenEixDthreeEwoDzeroNere does not existOexistsHforeFmodynamicHmeterJin greek cross
LsaltireGpaceGking faceKrd place medalPong sandalJught balloonNree button mouse
Mconsecutive equals signsYdimensional angleQot punctuationPleftwards arrowsPines converging left
ErightWnetworked computersTpointed black starSrays aboveFbelowFleftErightJightwards arrows
Rspeech bubblesP-d bottom-lighted rightwards arrowhead
ZKleft-lighted downwards equilateral arrowheadZTright-lighted upwards equilateral arrowhead
ZStop-lighted leftwards equilateral arrowheadZGrightwards arrowheadJequilateral arrowheadZVem dash
Hper-em spaceQumbs down signJup signLnder cloud and rainPstormLibetan astrological sign -khyud pa
Jsdong tshugsLgra gcan -char rtagsZOcantillation sign cang te-uJheavy beatKlight beatKsbub -chal
ZDdigit eightFfiveDourEhalf eightFfiveDourEnineEoneDsevenEixDthreeEwoDzeroJnineEoneDsevenEixDthree
EwoDzeroKku ru khaA bzhi mig canWletter -aCaBbaBhaDcaBhaDdaBdaBhaDhaCzaBhaEfixed-form raNgaBhaDha
CjaCkaBhaCkaCssaElaCmaCnaBgaCnaCyaDpaBhaDraBraDsaBhaCsaDtaBhaCsaBhaDtaBhaEwaCyaCzaBha
Jogotype sign chad rtagsKlhag rtagsYmark ang khang gyasConObka- shog gi mgo rgyanMyig mgo
Qsdus rtagsJka- shog gi mgo rgyanUur yig mgoNcaret -dzud rtags bzhi mig canMme long can
Xyig mgo phur shad maZAhe mgoGlosing brda rnying yig mgo sgab maZCyig mgo sgab ma
Xdelimiter tsheg bstarVgter tshegFyig mgo -um gter tsheg maNrnam bcad maQtruncated aXug rtags gyas
ConOhalantaHinitial brda rnying yig mgo mdun maZCyig mgo mdun maVtersyllabic tsheg
Tleading mchan rtagsTmnyam yig gi mgo rgyanWngas bzung nyi zlaHsgor rtagsUyis shadEtshegA shad
PpalutaGrgya gram shadNin chen spungs shadUsbrul shadJhadEtrailing mchan rtagsTsa -phruHheg shad
Kyig mgo tsheg shad maZBsign gru can rgyingsLmed rgyingsPinverted mchu canRlce tsa canJi rtags
Jmar tshesIchu canInyi zla naa daOrdel dkar gcigDnyisEsumErdel nagNnag gcigDnyisEsumErdel dkar
Rjes su nga roNnam bcadJsna ldanIyang rtagsIr tshesNubjoined letter -aCaBbaBhaDcaBhaDdaBdaBhaDhaCza
BhaEfixed-form raCwaCyaNgaBhaDhaCjaCkaBhaCssaElaCmaCnaBgaCnaCyaDpaBhaDraCsaBhaCsaDtaBhaCsaBhaDtaBha
EwaCyaCzaBhaKsign inverted mchu canRlce tsa canLmchu canWyllable omJmbol dril buHnor bu
A bzhi -khyilLgsum -khyilLnyis -khyilSpadma gdanJhur paHrdo rjeA rgya gramYvowel sign aaCeAeCiAiCo
AoCreversed iAiLuAuCvocalic lAlCrArZCcketEe over infinityPfinagh consonant joiner
Qletter ahaggar yazhLyer yaghJberber academy yahBjStawellemet yazNuareg yaghBnChBkAhCngCqBzhLyaAaBb
AhCchCdAdAhChCfBgAhAhDhAhCjBkAhAhDlBmBnBpBqBrArCsAhBsCtAhBtCvBwByBzAhBzDeAyCiBoBu
Jmodifier letter labialization markZJseparator markVgerA faceHht trifoliate snowflakeYldeA operator
A above leftwards arrowPrightwards arrowWwith dot aboveJrising dotsZAwith dot aboveFbelow
Jring aboveTmer clockHs with left half blackPright half blackZAny
A two dots over one dot punctuationZLred faceHhuta abbreviation signQnjiEdigit eightFfiveDourEnine
EoneDsevenEixDthreeEwoDzeroKgvangFletter aAaBiBuCbaBhaDcaBhaDdaBdaBhaDhaDeBgaBhaDhaCiAiCjaBhaDkaBha
DlaCmaCnaBgaCnaCyaDoBpaBhaDraCsaBhaCsaDtaBhaCtaBhaEuAuCvaBocalic lAlCrArKyaJomCsign anusvara
HvagrahaIcandrabinduLnuktaFviramaEsargaMvowel sign aaBiBuCeBiAiCoBshort eBoHuAuCvocalic lAlCrAr
ZBonian sign capital etKetPoiletEkyo towerJmatoEngueEolboxEthAbrushIp arc anticlockwise arrow
A with plusZEclockwise arrow with minusZFcurly bracketNhalf black circleMintegralIleft parenthesis
Qright parenthesisRsection signPtDleft cornerFropEhalf bracketRparenthesisLright cornerFrop
Ehalf bracketSsquare bracketOtortoise shell bracketWwith upwards arrow above
ZBrtoise shell bracketed cjk unified ideograph-4e09C8cE52ddDb89E6253D557D72cE70b9D6d7
ZBlatin capital letter sZUtal runoutJo letter aAeCbaBreathy aeCeAoCiAuKchaDdaCeAoCgaChaCiAuCjaCka
ClaCmaCnaBgaDoBpaCraCsaCtaCuBwaCyaJsign rising toneUrackballFtorEde mark signMinCmA carFnspluto
Fversal intersectionWiangle with dot aboveJrounded cornersPserifs at bottomQunderbar
O-headed rightwards arrowZBular bulletGflag on postMrulerNcolonFdent emblemLgram for earthFfire
EheavenGlakeEmountainIthunderHwaterEindNple colon operatorOdagger
Ghorizontal bar with double vertical strokeWtriple vertical strokeZRintegralInested greater-than
Mless-thanQplusDrimeFsolidus binary relationXtildeFvertical bar binary relationPdelimiter
Jright turnstilePwith horizontal strokeZPollAeybusHphyCical drinkFfishLueA light moon artaRmpet
Gugrik signJlipDmbler glassLrkeyCish lira signOned ampersandIngleFblack pentagonIshogi piece
Rcapital fIommaFdaggerFigit threeEwoJgreek small letter iotaXnorth east pointing leaf
Swest pointing leafWt signIok hand signMsans-serif capital gBlByTemicolonImall f
Gouth east pointing leafSwest pointing leafYwhite shogi pieceVtleFwelve pointed black star
Xisted rightwards arrowsXo asterisks aligned verticallyZDbutton mouseMconsecutive equals signs
Ydot leaderGpunctuationMs over one dot punctuationZEheartsGintersecting logical andDor
Xjoined squaresOlogical and operatorMor operatorTmen holding handsRspeech bubbles
Owomen holding handsU-em dashLugaritic letter ainClpaEbetaEdeltaEhalEgamlaEhainFhoAtaEiBkafCha
DlamdaFmemDnunDpuCqopaErashaFsadeCmkaEhinDsuDtetChannaFoCuBwoCyodDzetaDuJword dividerUmbrella
A on groundJwith rain dropsXnamused faceLcertainty signOdertieFo symbolJicorn faceJon
A above bar above intersectionWintersectionSbeside and joined with unionZDwith logical or
Kminus signKoverbarPt separatorKed symbolKversal recycling symbolYmarried partnership symbol
ZCp arrow through circlePheadA between two horizontal barsZCin a rectangle box
ZDbarb left down barb left harpoonMright harpoonZDright down barb left harpoonMright harpoon
ZJdown arrowA with basePblack arrowLdouble arrowMsans-serif arrowQtriangle-headed arrowVwhite arrow
Qfish tailJright diagonal ellipsisXtackA with circle aboveX-pointing airplaneImilitary airplane
Rred triangleMsmall airplaneIred triangleStriangle with left half blackPright half black
ZPper and left and lower triangular three quarters blockZUower one eighth block
Qtriangular half blockZCright and lower triangular three quarters blockZZBblade scissors
Ofive eighths blockShalf blockA and lower half inverse medium shadeZQcircle
Ginverse medium shade and lower half blockZIwhite circleUmedium shade
Rleft block diagonal lower centre to lower middle rightSupper middle rightMright
Vleft to lower middle rightSupper centreGmiddle rightZBmiddle left to upper centreGmiddle right
MrightZHupper middle left to upper centreGrightZWcorner with dot
Por lower right curly bracket sectionZLquadrant circular arcVto lower right fillSriangle
Cular medium shadeZDone eighth blockMquarter block
Rright block diagonal lower middle left to lower centreGrightZHupper centre to lower middle right
MrightLupper middle rightZDleft to lower centreGmiddle rightSupper middle right
ZBmiddle left to lower centreGmiddle rightMrightZWdrop-shadowed white square
ZBor lower left curly bracket sectionZKpencilGquadrant circular arcVshadowed white circleGsquare
Vto lower left fillRriangleCular medium shadeZEseven eighths blockTthree eighths block
Nquarters blockTriangular one quarter blockZHside-down faceOwards ancoraFrrow
A and right one eighth blockZBfrom barIleftwards of downwards arrowZDto barGwith double stroke
Nequilateral arrowheadVhorizontal strokeRlarge triangle arrowheadYmedium triangle arrowhead
ZAnotched tailMsmall equilateral arrowheadVtriangle arrowheadYtip leftwardsJrightwardsZAblack arrow
Fcircled white arrowZAcompressed arrowQdashed arrowLouble arrowMfinger-post arrow
Rharpoon with barb left beside downwards harpoon with barb rightZIupwards harpoon with barb right
ZNfrom barIto barHwardsJright from barIto barHwardsZCeavy arrowFcompressed arrowWpaired arrows
Nquadruple arrowProcketGsans-serif arrowPquared arrowNtriangle arrowheadK-headed arrow
A leftwards of downwards triangle-headed arrowZTto barGwith bold shaftKdouble horizontal stroke
Yheavy shaftLlong tip leftwardsJrightwardsTmedium shaftMnarrow shaftMvery heavy shaftZCdashed arrow
Mpaired arrowsZBple arrowLwo headed arrowN-headed arrow from small circleRwith triangle arrowheads
ZQwhite arrowA from barA with horizontal barZDon pedestalA with horizontal barOvertical bar
ZEwithin triangle arrowheadZGdouble arrowA on pedestalZMranusFsCvai commaFdigit eightFfiveDourEnine
EoneDsevenEixDthreeEwoDzeroKfull stopJquestion markNsyllable aAnCbaBeAeChaBeAeCiBoAoCuCiBoAoCuCcaBe
AeCiBoAoCuCdaBeAeChaBeAeChaBeAeCiBoAoCuCiBoAoCuCiBoAoCuCeAeAnCnCfaBeAeCiBoAoCuCgaBbaBeAeBnCiBoAnBo
CuCeAeBnCiBoAoCuChaAnCeAeBnCiAnCoAnBoCuAnDiAnCjaBeAeCiBoAoCuCkaAnCeAeCiBoAoCpaAnCeAeBnCiBoAoCuCuCla
BeAeBngthenerJiBoAoCuCmaBbaBeAeCiBoAoCuCeAeCgbaBeAeCiBoAoCuDiBoAoCuCnaBdaBeAeCiBoAle doCfaCkaCma
CsooGoCuCeAeCgAanCenCgaBeAeBnCiBoAoCuConDiBjaBeAeCiBoAoCuCoAoCuByaBeAeCiBoAoCuDoAnBoAnDpaBeAeCiBoAo
CuCraBeAeCiBoAoCuCsaBeAeChaBeAeCiBoAoCuCiBoAoCuCtaBeAeChaBeAeCiBoAoCuCiBoAoCuCuAnCvaBeAeCiBoAoCuCwa
AnCeAeAnCnCiAnCoAnBoAnDuAnDyaBeAeCiBoAoCuCzaBeAeChaBeAeCiBoAoCuCiBoAoCuJmbol bangEdangDo-oCongFfaa
CeengFjongEkeengEungEniiDtaaCingDongNmpireFriation selector-1A0A0B1B2B3B4B5B6B7B8B9C1A0B1B2B3B4B5B6
B7B8B9C2A0B1B2B3B4B5B6B7B8B9C3A0B1B2B3B4B5B6B7B8B9C4A0B1B2B3B4B5B6B7B8B9C5A0B1B2B3B4B5B6B7B8B9C6A0
B1B2B3B4B5B6B7B8B9C7A0B1B2B3B4B5B6B7B8B9C8A0B1B2B3B4B5B6B7B8B9C9A0B1B2B3B4B5B6B7B8B9D2A0A0B1B2B3B4
B5B6B7B8B9C1A0B1B2B3B4B5B6B7B8B9C2A0B1B2B3B4B5B6B7B8B9C3A0B1B2B3B4B5B6B7B8B9C4A0B1B2B3B4B5B6B7B8B9
C5A0B1B2B3B4B5B6C6B7B8B9C3A0B1B2B3B4B5B6B7B8B9C4A0B1B2B3B4B5B6B7B8B9C5A0B1B2B3B4B5B6B7B8B9C6A0B1B2
B3B4B5B6B7B8B9C7A0B1B2B3B4B5B6B7B8B9C8A0B1B2B3B4B5B6B7B8B9C9A0B1B2B3B4B5B6B7B8B9
Uector or cross productVdic sign anusvara antargomukhaMbahirgomukhaMubhayato mukhaOvamagomukha
A with tailZErdhavisargaLtikramaIdouble anusvara antargomukhaZDhexiform long anusvaraWjihvamuliya
Llong anusvaraNnihshvasaJreversed visarga anudattaIudattaWotated ardhavisargaTthang long anusvara
UtiryakGupadhmaniyaLvisarga anudattaA with tailSsvaritaHudattaA with tail
Yyajurvedic midline svaritaZGtone atharvavedic independent svaritaZHcandra aboveFbelowMdot below
Huble ring aboveKsvaritaOkarshanaGthaka anudattaQprenkhaHrigvedic kashmiri independent svarita
ZKng aboveKsharaFthree dots belowPriple svaritaNwo dots below
Oyajurvedic aggravated independent svaritaZFindependent svaritaTkathaka independent svarita
A schroederZZHrsicleFtical bar beside right triangleVdouble left turnstileVtriple right turnstile
Wwith horizontal strokeZBellipsisIfour dotsJideographic iteration markZBkana repeat mark
A lower halfKupper halfPwith voiced sound markA upper halfZUlineA extensionJwith circle aboveFbelow
Mmiddle dotUmale with stroke signVone eighth block-2B3B4B5B6B7Ssix dotsItab keyEulationA setNilde
Eraffic lightNzigzag lineRy bold greek crossQheavy eight pointed black starSspoked asterisk
Vfive spoked asteriskUgreek crossLreverse solidusPsaltireGix spoked asteriskSolidusHwhite circle
GsquareSmuch greater-thanMless-thanRstaEibration modeMctory handKdeo cameraGgameFcassette
Letnamese alternate reading mark caCnhayZKwdata squareNolinErgoDthkuqi capital letter aBbbeCeCceBhe
DdeBheDeAiCfeCgaChaBhaDiAjeDjeCkaClaBlaDmeCneBjeDoBpeCqaCreCseBheDteBheDuBveCxeCyBzeRsmall letter a
BbbeCeCceBheDdeBheDeAiCfeCgaChaBhaDiAjeDjeCkaClaBlaDmeCneBjeDoBpeCqaCreCseBheDteBheDuBveCxeCyBze
Xoided greek crossQlcanoEleyballHume integralOs1A0A0B1B2B3B4B5B6B7B8B9C1A0B1B2B3B4B5B6B7B8B9C2A0B1
B2B3B4B5B6B7B8B9C3A0B1B2B3B4B5B6B7B8B9C4A0B1B2B3B4B5B6B7B8B9C5A0B1B2B3B4B5B6B7B8B9C6A0B1B2B3B4B5B6
B7B8B9C7A0B1B2B3B4B5B6B7B8B9C8A0B1B2B3B4B5B6B7B8B9C9A0B1B2B3B4B5B6B7B8B9D2A0A0B1B2B3B4B5B6B7B8B9C1
A0B1B2B3B4B5B6B7B8B9C2A0B1B2B3B4B5B6B7B8B9C3A0B1B2B3B4B5B6B7B8B9C4A0B1B2B3B4B5B6B7B8B9C5A0B1B2B3B4
B5B6C6B7B8B9C3A0B1B2B3B4B5B6B7B8B9C4A0B1B2B3B4B5B6B7B8B9C5A0B1B2B3B4B5B6B7B8B9C6A0B1B2B3B4B5B6B7B8
B9C7A0B1B2B3B4B5B6B7B8B9C8A0B1B2B3B4B5B6B7B8B9C9A0B1B2B3B4B5B6B7B8B9DtAsCulcanus
Fgar fraction five eighthsHsixthsKour fifthsLone eighthGfifthFhalfEninthFquarterHseventhGixthFtenth
EhirdJseven eighthsNthree eighthsHfifthsGquartersNwo fifthsGthirdsKzero thirdsZCwaffle
Encho digit eightFfiveDourEnineEoneDsevenEixDthreeEwoDzeroKletter aAaAnAgDngCuCbaCcaCdaCeAnCfaCga
ChaCiAngDjaCkaBhaDlaBlhaEmaCnaBgaCyaDoAnAgDpaBhaDraCsaBhaDtaBhaCraCsaDuAenDvaCwaCyaBihDzaJngun sign
Jtone koiAniFtupAniOing crescent moon symbolUgibbous moon symbolYrang citi capital letter aAmBngCt
CbuCdaCeAnnByDgaCharCiyoDoloCrrEiiCkoCngaaDungEoAddDpuCsiiCsuuEtteDucBuCviyoEwiCyaBoBuAj
Sdigit eightFfiveDourEnineEoneDsevenEixDthreeEwoDzeroKnumber eightyGfiftyEortyFninetyGseventyGixty
FtenChirtyFwentyNomCsmall letter aAmBngCtCbuCdaCeAnnByDgaCharCiyoDoloCrrEiiCkoCngaaDungEoAddDpuCsii
CsuuEtteDucBuCviyoEwiCyaBoBuAjZAning signKstebasketJtchCer buffaloHclosetGpoloEwaveFmelon
Ive arrow pointing directly leftErightZEdashGing black flagKhand signJwhite flagOy dashEline
Dow lineIoverlineLxing crescent moon symbolUgibbous moon symbolZAeary cat faceIfaceIdding
Ege-tailed rightwards arrowZCierstrass elliptic functionZBght lifterLst syriac crossQhaleDeel
A of dharmaKchair symbolPite arrow shaft width oneDtwo thirdsZDbulletGchess bishop
A rotated ninety degreesOtwo hundred seventy degreesZRequihopperA rotated ninety degreesZIking
A rotated ninety degreesOtwo hundred seventy degreesZOnightA rotated forty-five degrees
Sninety degreesOone hundred thirty-five degreesZGthree hundred fifteen degrees
ZDwo hundred seventy degreesPtwenty-five degreesZP-bishopGqueenFrookLpawnA rotated ninety degrees
Otwo hundred seventy degreesZPqueenA rotated ninety degreesOtwo hundred seventy degreesZQrook
A rotated ninety degreesOtwo hundred seventy degreesZPturned bishopGkingDnightGpawnEqueenFrook
QircleA containing black small circleZEwith dot rightHwn arrowKlower left quadrantNright quadrant
Utwo dotsIupper left quadrantNright quadrantZGlub suitIoncave-sided diamondA with leftwards tick
Orightwards tickZRdiamondA containing black medium diamondOsmall diamondNvery small diamond
ZKin squareJsuitEwith centred dotXown pointing backhand indexOindexFleft hand index
ZA-pointing small triangleOtriangleVraughts kingEmanMexclamation mark ornamentZAflag
A with horizontal middle black stripeZNoretteFwerFour pointed cuspEstarQrowning face
Nhard shell floppy diskVeartA suitHvy check markKsaltire with rounded cornersZHxagon
Gorizontal ellipseQurglassJlarge squareKtin crossKeft lane mergeKpointing backhand indexOindex
P-pointing pointerHsmall triangleOtriangleVozenge containing black small lozengeZNmedium diamond
HlozengeHsmall squareLquareFtarKoon selenaLnibDparallelogramMennantEtagonIquestion mark ornament
WrectangleIight pointing backhand indexOindexP-pointing pentagonHointerHsmall triangleOtriangle
XscissorsHesame dotJhogi pieceKmall lozengeHsquareFtarIiling faceLpade suitJquareA button
Gcontaining black medium squareNsmall squareMvery small squareZJwith centre vertical line
Uleftwards tickNower left quadrantNright quadrantUrightwards tickOounded corners
Pupper left quadrantNright quadrantUvertical bisecting lineZJtarDunA behind cloudA with rain
Wwith raysEsmall cloudUtelephoneIouchtone telephoneSrapeziumHiangle containing small white triangle
ZOwo-way left way trafficYup pointing backhand indexOindexP-pointing chevronHsmall triangle
OtriangleA with dotZEvertical barDellipseHrectanglePy small squareS-feathered rightwards arrow
ZGide-headed downwards barb arrowKheavy barb arrowQlight barb arrowQmedium barb arrow
Rvery heavy barb arrowZGleftwards barb arrowKheavy barb arrowQlight barb arrowQmedium barb arrow
Rvery heavy barb arrowZGnorth east barb arrowKheavy barb arrowQlight barb arrowQmedium barb arrow
Rvery heavy barb arrowZBwest barb arrowKheavy barb arrowQlight barb arrowQmedium barb arrow
Rvery heavy barb arrowZHrightwards barb arrowKheavy barb arrowQlight barb arrowQmedium barb arrow
Rvery heavy barb arrowZHsouth east barb arrowKheavy barb arrowQlight barb arrowQmedium barb arrow
Rvery heavy barb arrowZBwest barb arrowKheavy barb arrowQlight barb arrowQmedium barb arrow
Rvery heavy barb arrowZHupwards barb arrowKheavy barb arrowQlight barb arrowQmedium barb arrow
Rvery heavy barb arrowZOggly vertical lineSlted flowerLnd blowing faceMchimeGowDe glassHking face
Kred keyboardNjBolf faceHmanA with bunny earsQs bootsFclothesHhatDsandalKens symbolLn signGod
Crd joinerGseparator middle dotWld mapGmBried faceLrapped presentNeath productLnchDstlers
Hiting handMx in a rectangle boxT-rayEiangqi black cannonFhariotHelephantIgeneralHhorseFmandarin
IsoldierNred cannonFhariotHelephantIgeneralHhorseFmandarinIsoldierSorDyawning faceLellow heart
Kn signGzidi combining hamza markKmadda markUhyphenation markQletter beCchhimDimDimDdadBlDelifDtBw
BynDfaCgafDhayChaDjaCkafChafElamA with dot aboveSmimDnunDowCpeBheDqafDraBhaDsadCeBhinDinDtaBheDum
CvaA alternate formRwawDxaBheynFyotA with circumflex aboveZAzaAlCePi radical bbutDurDcheCipCuopDyAp
BtDddurDuCgaBepCgopCuoDotDhmoCxitCopCuoEjjieCutCyCoCkeBitDliAeCyrDmiBopDnbieDyipCopDzupEopCputCyt
DqotDshatCopCurCyCsiDtatCuCvepCurDwoCyitCoCzaBotCupBrCzietNsyllable aApBtBxCbaApBtBxCbaApBtBxCeApBx
CiAeApBtBxCpBtBxCoApBtBxCuAoApBxCpBrAxCtBxCyApBtBxDeApBxCiAeApBtBxCpBtBxCoApBtBxCuAoApBxCpBrAxCtBx
CyApBrAxCtBxDcaApBtBxCeApBxChaApBtBxCeApBtBxCoApBtBxCuAoApBtBxCpBrAxCxCyApBrAxCtBxDiAeApBtBxCpBtBx
CoApBtBxCuAoApBxCpBrAxCtBxCyApBrAxCtBxDdaApBtBxCdaApBtBxCeApBxCiAeApBxCpBtBxCoApBtBxCuAoApBxCpBrAx
CtBxDeApBxCiAeApBxCpBtBxCoApBtBxCuAoAxCpBrAxCtBxDeAxCfaApBtBxCiApBtBxCoApBxCuApBrAxCtBxCyApBtBxDga
ApBtBxCeApBtBxCgaApBtBxCeApBtBxCiAeApBxCtBxCoApBtBxCuAoApBtBxCpBrAxCtBxDiAeApBtBxCpBtBxCoApBtBxCuAo
ApBtBxCpBrAxCtBxDhaApBtBxCeApBxCieAxCtClaApBtBxCeApBxCiAeApBxCpBtBxCoApBxCuAoApBxCpBrAxCtBxCyApBrAx
CtBxDmaApBtBxCiAeApBxCpBtBxCoApBtBxCuAoApBxCpBrAxCtBxCyApBrAxCxDnaApBtBxCeApBxCiAeApBtBxCpBtBxCopBt
BxCuoAxCtDoApBtBxCuoApBtBxDxaApBtBxCeApBxCiAeApBtBxCpBtBxCoApBtBxCuoApBtBxFiAeApBtBxCpBt
Aeration markNxCjiAeApBtBxCpBtBxCjiAeApBtBxCpBtBxCoApBtBxCuAoApBxCpBrAxCtBxCyApBtBxDoApBtBxCuAoApBt
BxCpBrAxCtBxCyApBrAxCtBxDkaApBtBxCeApBtBxCiAeApBxCpBtBxCoApBtBxCuAoApBxCpBrAxCtBxDlaApBtBxCeApBxCi
AeApBtBxCpBtBxCoApBtBxCuAoApBtBxCpBrAxCtBxCyApBrAxCtBxDmaApBtBxCeAxCgaApBtBxCeApBxCieAxDoApBtBxCuAo
ApBxCpBrAxCtBxDiAeApBxCpBtBxCoApBtBxCuAoApBtBxCpBrAxCtBxCyApBtBxDnaApBxCbaApBtBxCiAeApBxCpBtBxCoAp
BtBxCuApBrAxCtBxCyApBrAxCtBxDdaApBtBxCeApBxCiAeAxCpBtBxCoApBtBxCuApBrAxCtBxDeApBxCgaApBtBxCeApBxCie
ApBxDoApBtBxCuoAtBxEiAeApBxCpBtBxCjiAeApBtBxCpBtBxCoApBtBxCuAoAxCpBrAxCxCyApBrAxCtBxDoApBtBxCraApBt
BxCeApBtBxCoApBxCuApBrAxCtBxCyApBrAxCtBxDuAoApBxCpBrAxCtBxCyiAeApBtBxCpBtBxCoApBtBxCuAoApBxCpBtBx
DzaApBtBxCeAxCiAeApBxCpBtBxCopBxCuAoAxCpBrAxCxCyApBrAxCtBxEoApBtBxCpaApBtBxCiAeApBxCpBtBxCoApBtBxCu
AoApBxCpBrAxCtBxCyApBrAxCtBxDqiAeApBtBxCpBtBxCoApBtBxCuAoApBtBxCpBrAxCtBxCyApBrAxCtBxDraApBtBxCeAp
BxCoApBtBxCraAxCeApBtBxCoApBtBxCuAoAxCpBrAxCtBxCyApBrAxCtBxDuAoApBxCpBrAxCtBxCyApBrAxCtBxDsaApBtBx
CeApBxChaApBtBxCeApBtBxCoApBtBxCuAoApBxCpBrAxCtBxCyApBrAxCtBxDiAeApBxCpBtBxCoApBtBxCsaApBtBxCeApBx
CiAeApBxCpBtBxCoApBtBxCuApBtBxCyApBrAxCtBxDuAoApBxCpBrAxCtBxCyApBrAxCtBxDtaApBtBxCeApBxCiAeApBxCpBt
BxCoApBtBxCuAoApBtBxCpBrAxCtBxDuoApBxDvaApBtBxCepBxCiAeApBtBxCpBtBxCoApBtBxCuApBrAxCtBxCyApBrAxCtBx
DwaApBtBxCeApBxCoApBxCuAoApBxExiAeApBtBxCpBtBxCoApBtBxCuoAxDyApBrAxCtBxDyiAeApBtBxCpBtBxCoApBtBxCu
AoApBtBxCpBrAxCtBxCyApBrAxCtBxDzaApBtBxCeApBxChaApBtBxCeApBtBxCoApBtBxCuAoApBxCpBrAxCtBxCyApBrAxCt
BxDiAeApBxCpBtBxCoApBtBxCuAoApBxCpBrAxCtBxCyApBrAxCtBxCzaApBtBxCeApBxCiAeApBtBxCpBtBxCoApBxCuApBrAx
CxCyApBrAxCtBxOn yangHo-yoFz notation bag membershipOdomain antirestrictionWleft binding bracket
Pimage bracketSrange antirestrictionUelational compositionVight binding bracketPimage bracket
Tschema compositionLpipingFrojectionQpotEtype colonUanabazar square closing double-lined head mark
Whead markPuster-final letter laCraCvaCyaPinitial letter raZAfinal consonant mark
Uinitial double-lined head markWhead markRletter -aCaBbaBhaDcaBhaDdaBdaBhaDhaCzaBhaEgaBhaDhaCjaCka
BhaCssaElaCmaCnaBgaCnaCyaDpaBhaDraCsaBhaCsaDtaBhaCsaBhaDtaBhaEvaCyaCzaBhaKmark double shad
Llong tshegKshadEtshegKsign anusvaraIcandra with ornamentObinduA with ornamentZAviramaEsarga
LubjoinerJvowel length markLsign aiBuCeBiBoAeCreversed iKuAeZEebra faceIro width joiner
Gno-break spaceMn-joinerKspaceOusDipper-mouth faceQnamenny combining attaching vertical omet
Xlower tonal range indicatorZCmark borzayaHchashkaA polnayaOurved ometLdemestvenny zaderzhka
UvoetochieKgorazdo nizko on leftErightIs kryzhem on leftErightYvysokoOkachkaFryzhA on leftMupnaya
HlomkaFmalo povyshe on leftErightIs khokhlom on leftErightQryzhemItrannoUnizko on leftEright
Is kryzhem on leftErightYoblachkoHnBtsechkaIpodchashieA with vertical strokeZDvertkaHvyshe on left
ErightIs khokhlom on leftErightQryzhemItrannoPravnoDzsekaHskobaEorochya nozhkaOredne on leftEright
Otranno malo povysheUtikhayaGochkaFsata on leftErightIs kryzhemPudarkaGvysoko on leftEright
Is khokhlom on leftErightQryzhemQzaderzhkaIeloCvokKtonal range mark mrachnoHsvetloGtresvetlo
ZLneume chashkaFelyustkaKdemestvenny klyuchQrbitsaHouble zapyatayaPudaDva v chelnuMfita
Egolubchik borzyFmrachnyHsvetlyGtikhyEresvetlyTkhamiloGlyuchFobylaFryukA tikhyIzhEufismaHmechik
A klyuchenepostoyannyMpovodnyHvoyKpovodnyOnemkaFoblakoFsokaA klyuchevaya nepostoyannayaOsvetlaya
Tryukovaya svetlayaTsvetlayaItresvetlayaRpalkaDraklitGukDerevodkaA nepostoyannayaXodchashie
IlkulizmyKreversed chelyustkaSogDskameytsa dvoechelnaya klyuchevayaLnepostoyannayaOprostaya
IsvetlayaVklyuchenepostoyannayaOvaya svetlayaItikhayaTmrachnayaJsvetlayaItikhayaGresvetlaya
UlozhitieA s kryzhemHzapyatoyKzakrytoeRtatyaA nepostoyannayaOs dvumya zapyatymiQkryzhemA i zapyatoy
SrogomFzapyatoyA i kryzhemHpodchashiemYzakrytayaA s zapyatoyZAopitsaA s ochkomIwith sorochya nozhka
ZCrela dvoechelnayaA klyuchevayaPokryzhevayaKpovodnayaA klyuchevayaZGgromnaya
A with single zapyatayaZBokryzhevayaA povodnayaUpovodnayaA with double zapyatayaQsingle zapyataya
ZLklyuchenepostoyannayaOpovodnayaPryukovayaA gromnayaA with single zapyatayaZBokryzhevaya
A povodnayaUpovodnayaA with double zapyatayaQsingle zapyatayaZLpovodnayaJtryaskaPzhevaya
KmrachnotikhayaOnepostoyannayaOpolupovodnayaLvodnayaIrostayaItikhaya putnayaOryasoglasnaya
IpovodnayaJstrelnayaWvrakhiya klyuchevaya mrachnayaJprostayaIsvetlayaItresvetlayaXmrachnaya
JprostayaIsvetlayaItresvetlayaUzanozhekGpyatayaImeytsaNpriznak modifier direction flipOkryzh
Flevel-2B3HrogZDombieFwjBnbspDjCsp"

end CodeAtlas.Text
